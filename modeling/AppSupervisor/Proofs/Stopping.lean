import AppSupervisor.Deployer
import AppSupervisor.Proofs.Frame
import AppSupervisor.Proofs.Registry

/-!
Asking instances how they are and stopping them.

Whatever instances answer, and whatever goes wrong on the way, nothing is launched, sessions are
opened but not closed, and a deployment leaves the registry only where it is lost to others or
forgotten on purpose. All of this is one frame. The actions need little of a frame, so it is shown
action by action for all frames that have it.
-/

namespace AppSupervisor

variable {σ : Type}

structure Stops (forgotten : String → Prop) (world : World σ) (done : List Event)
    (after : World σ) : Prop where
  kept : ∀ id, ¬forgotten id → .lost id ∉ done →
    after.registry.get? id = world.registry.get? id
  lost : ∀ id, .lost id ∈ done → after.registry.get? id = none
  gone : ∀ id, world.registry.get? id = none → after.registry.get? id = none
  root : after.root = world.root
  shared : after.prober.shared = world.prober.shared
  toClose : after.prober.toClose = world.prober.toClose ++ openingsIn done
  tries : triesIn done = []
  closes : ∀ session, .closedSession session ∉ done
  deletes : ∀ path, .removedTree path ∉ done

section Frame

variable {forgotten : String → Prop} {world between after : World σ} {done more : List Event}

theorem stops_refl : Stops forgotten world [] world := by
  constructor <;> simp

theorem Stops.append (hdone : Stops forgotten world done between)
    (hmore : Stops forgotten between more after) : Stops forgotten world (done ++ more) after := by
  refine ⟨fun id hid hnone => ?_, fun id hmem => ?_, fun id hnone => ?_, ?_, ?_, ?_, ?_, ?_, ?_⟩
  · rw [List.mem_append, not_or] at hnone
    exact (hmore.kept id hid hnone.2).trans (hdone.kept id hid hnone.1)
  · rcases List.mem_append.mp hmem with hmem | hmem
    · exact hmore.gone id (hdone.lost id hmem)
    · exact hmore.lost id hmem
  · exact hmore.gone id (hdone.gone id hnone)
  · exact hmore.root.trans hdone.root
  · exact hmore.shared.trans hdone.shared
  · simp [hmore.toClose, hdone.toClose]
  · simp [hdone.tries, hmore.tries]
  · simp [hdone.closes, hmore.closes]
  · simp [hdone.deletes, hmore.deletes]

theorem stops_of_quiet {event : Event} (hquiet : event.isQuiet) :
    Stops forgotten world [event] { world with journal := event :: world.journal } := by
  have hall : ∀ other ∈ [event], other.isQuiet := by simpa using hquiet
  have hopens := picked_of_quiet Event.opening?_of_quiet hall
  have htries := picked_of_quiet Event.try?_of_quiet hall
  refine ⟨fun _ _ _ => rfl, fun id hmem => ?_, fun _ h => h, rfl, rfl, ?_, htries, ?_, ?_⟩
  · exact absurd hmem (not_mem_of_quiet hall rfl)
  · simp [hopens]
  · exact fun session => not_mem_of_quiet hall rfl
  · exact fun path => not_mem_of_quiet hall rfl

end Frame

instance (forgotten : String → Prop) :
    IsFrame fun _ => (Stops forgotten : World σ → List Event → World σ → Prop) :=
  IsFrame.always (fun _ => stops_refl) Stops.append
    (fun _ _ => by constructor <;> simp) fun _ _ => stops_of_quiet

/-- What is forgotten in one place is forgotten in a wider one. -/
theorem Stops.mono {forgotten other : String → Prop} {world after : World σ} {done : List Event}
    (h : Stops forgotten world done after) (himp : ∀ id, forgotten id → other id) :
    Stops other world done after :=
  { h with kept := fun id hid => h.kept id fun hforgotten => hid (himp id hforgotten) }

/-- What is visible and is not forgotten leaves the registry exactly if it is lost. -/
theorem Stops.gone_iff_lost {forgotten : String → Prop} {world after : World σ} {done : List Event}
    {id : String} {instances : List Instance} (h : Stops forgotten world done after)
    (hget : world.registry.get? id = some instances) (hid : ¬forgotten id) :
    after.registry.get? id = none ↔ .lost id ∈ done := by
  refine ⟨fun hgone => ?_, h.lost id⟩
  by_cases hlost : .lost id ∈ done
  · exact hlost
  · have hkept := h.kept id hid hlost
    rw [hget, hgone] at hkept
    contradiction

namespace Act

section Parts

variable {forgotten : String → Prop}

theorem stops_lose (id : String) : (lose id : Act σ Unit).Follows fun _ => Stops forgotten := by
  intro world
  refine yields_bind (yields_modify rfl (yields_note ?_))
  refine ⟨fun other _ hnone => ?_, fun other hmem => ?_, fun other hnone => ?_, rfl, rfl, ?_, rfl,
    ?_, ?_⟩
  · exact Registry.get?_remove_of_ne _ (by simpa using hnone)
  · obtain rfl : other = id := by simpa using hmem
    exact Registry.get?_remove_self _ _
  · exact Registry.get?_remove_eq_none hnone
  · simp
  · simp
  · simp

theorem forget_yields (id : String) (world : World σ) :
    (forget id : Act σ Unit).Yields world fun outcome done after => outcome = .ok () ∧ done = [] ∧
      after.registry.get? id = none ∧ Stops (· = id) world [] after := by
  refine yields_modify rfl ⟨rfl, rfl, Registry.get?_remove_self _ _, fun other hother _ => ?_,
    by simp, fun other hnone => ?_, rfl, rfl, ?_, rfl, by simp, by simp⟩
  · exact Registry.get?_remove_of_ne _ hother
  · exact Registry.get?_remove_eq_none hnone
  · simp

variable [Machine σ]

theorem stops_kill (pid : Nat) : (kill pid : Act σ Unit).Follows fun _ => Stops forgotten :=
  kill_follows fun _ _ => by constructor <;> simp

end Parts

/-! ### What is needed of a frame -/

def askPage (thread url : String) : Act σ (World σ) := do
  let session ← sessionOf thread
  let world ← get
  note (.askedPage session url world.prober.timeout)
  return world

def post (thread page : String) (timeout : Rat) : Act σ Unit := do
  let session ← sessionOf thread
  note (.posted session page timeout)

/-- A frame that all parts of stopping instances follow, apart from requests: deployments may be
lost to others on the way, and processes killed. -/
class IsStopFrame [Machine σ] (R : World σ → List Event → World σ → Prop) : Prop
    extends IsWatched fun _ => R where
  lose : ∀ id, (lose id : Act σ Unit).Follows fun _ => R
  kill : ∀ pid, (kill pid : Act σ Unit).Follows fun _ => R

class IsAskFrame (thread : String) (R : World σ → List Event → World σ → Prop) : Prop where
  asks : ∀ url, (askPage thread url : Act σ (World σ)).Follows fun _ => R
  posts : ∀ page timeout, (post thread page timeout : Act σ Unit).Follows fun _ => R

def AllowsSessions (R : World σ → List Event → World σ → Prop) : Prop :=
  ∀ (world : World σ) (session : Nat) (byThread : List (String × Nat)),
    R world [.openedSession session] { world with
      sessionCount := session
      prober := { world.prober with byThread, toClose := world.prober.toClose ++ [session] }
      journal := .openedSession session :: world.journal }

section Requests

variable {R : World σ → List Event → World σ → Prop} [Composes fun _ => R] {thread : String}
  {α : Type}

theorem sessionOf_follows (hopened : AllowsSessions R) (thread : String) :
    (sessionOf thread : Act σ Nat).Follows fun _ => R := by
  intro world
  refine yields_bind_get ?_
  split
  · exact yields_pure (Composes.refl (R := fun _ => R) true world)
  · exact yields_bind (yields_set rfl (yields_bind_note (yields_pure (hopened world _ _))))

/-- Where it does not matter which session is used, it is enough to know what opening one follows,
and what noting a request follows. -/
theorem isAskFrame_of (hopened : AllowsSessions R)
    (hnote : ∀ event : Event, event.isRequest → (note event : Act σ Unit).Follows fun _ => R) :
    IsAskFrame thread R where
  asks _ := (sessionOf_follows hopened thread).bind fun _ =>
    follows_get.bind fun _ => (hnote _ rfl).bind fun _ => follows_pure _
  posts _ _ := (sessionOf_follows hopened thread).bind fun _ => hnote _ rfl

theorem follows_bind_ask [IsAskFrame thread R] (url : String) {next : World σ → Act σ α}
    (hnext : ∀ world, (next world).Follows fun _ => R) :
    (sessionOf thread >>= fun session => get >>= fun world =>
      note (.askedPage session url world.prober.timeout) >>= fun _ => next world).Follows
        fun _ => R := by
  have hasks : (askPage thread url : Act σ (World σ)).Follows fun _ => R := IsAskFrame.asks url
  simpa only [askPage, bind_assoc, pure_bind] using hasks.bind hnext

theorem follows_bind_post {page : String} {timeout : Rat} {next : Act σ α}
    (hpost : (post thread page timeout : Act σ Unit).Follows fun _ => R)
    (hnext : next.Follows fun _ => R) :
    (sessionOf thread >>= fun session => note (.posted session page timeout) >>= fun _ =>
      next).Follows fun _ => R := by
  simpa only [post, bind_assoc] using hpost.bind fun _ => hnext

end Requests

instance [Machine σ] (forgotten : String → Prop) :
    IsStopFrame (Stops forgotten : World σ → List Event → World σ → Prop) where
  lose := stops_lose
  kill := stops_kill

instance (forgotten : String → Prop) (thread : String) :
    IsAskFrame thread (Stops forgotten : World σ → List Event → World σ → Prop) :=
  isAskFrame_of (fun _ _ _ => by constructor <;> simp) fun event hrequest world => yields_note (by
    cases event <;> first | contradiction | (constructor <;> simp))

variable [Machine σ]

/-- An answer leaves nothing in the journal but that a process has exited, and only the machine
refuses one. -/
theorem isAlive_yields (pid : Nat) (world : World σ) :
    (isAlive pid : Act σ Bool).Yields world fun outcome done _ => match outcome with
      | .ok true => done = []
      | .ok false => ∃ code, done = [.sawExit pid code]
      | .error fault => (Machine.exitCode pid world.machine).1 = .error fault := by
  refine yields_bind (yields_bind (yields_tryMachine (fun code? machine _ => ?_) ?_))
  · cases code? with
    | some code => exact yields_bind_note (yields_pure (yields_pure ⟨code, rfl⟩))
    | none => exact yields_bind (yields_pure (yields_pure (yields_pure rfl)))
  · intro fault machine hfault
    rw [hfault]

variable {R : World σ → List Event → World σ → Prop}

/-! ### Processes -/

section Watched

variable [IsWatched fun _ => R]

theorem exitCode_follows (pid : Nat) :
    (exitCode pid : Act σ (Option Int)).Follows fun _ => R := by
  refine (follows_tryOperation (.exitCode pid)).bind fun code? => ?_
  cases code? with
  | some code => exact (follows_note rfl rfl).bind fun _ => follows_pure _
  | none => exact (follows_pure ()).bind fun _ => follows_pure _

theorem isAlive_follows (pid : Nat) : (isAlive pid : Act σ Bool).Follows fun _ => R :=
  (exitCode_follows pid).bind fun _ => follows_pure _

/-- The targets are living instances. -/
theorem livingTargets_yields (instances : List Instance) (world : World σ) :
    (livingTargets instances : Act σ (List (Nat × String))).Yields world fun outcome done after =>
      R world done after ∧ ∀ targets, outcome = .ok targets →
        ∀ target ∈ targets, ∃ i ∈ instances, target = (i.pid, i.baseUrl) := by
  induction instances generalizing world with
  | nil => exact yields_pure ⟨Composes.refl (R := fun _ => R) true world, by simp⟩
  | cons i rest ih =>
      refine yields_bind ((isAlive_follows (R := R) i.pid world).mono ?_)
      intro outcome asked between hasked
      cases outcome with
      | error fault => exact ⟨hasked, by simp⟩
      | ok alive =>
          refine yields_bind ((ih between).mono ?_)
          rintro outcome done after ⟨hdone, htargets⟩
          have hboth : R world (asked ++ done) after := Composes.append hasked hdone
          cases outcome with
          | error fault => exact ⟨hboth, by simp⟩
          | ok others =>
              refine yields_pure ⟨by simpa using hboth, ?_⟩
              rintro _ ⟨rfl⟩ target hmem
              have hmem' : target = (i.pid, i.baseUrl) ∨ target ∈ others := by
                cases alive <;> simp_all
              rcases hmem' with rfl | hother
              · exact ⟨i, by simp, rfl⟩
              · obtain ⟨j, hj, hsame⟩ := htargets others rfl target hother
                exact ⟨j, List.mem_cons_of_mem i hj, hsame⟩

theorem killLiving_follows {instances : List Instance}
    (hkill : ∀ i ∈ instances, (kill i.pid : Act σ Unit).Follows fun _ => R) :
    (killLiving instances : Act σ Unit).Follows fun _ => R := by
  induction instances with
  | nil => exact follows_pure ()
  | cons i rest ih =>
      obtain ⟨hfirst, hrest⟩ := List.forall_mem_cons.mp hkill
      refine (isAlive_follows i.pid).bind fun alive => ?_
      cases alive with
      | true => exact hfirst.bind fun _ => ih hrest
      | false => exact (follows_pure ()).bind fun _ => ih hrest

theorem killAlive_follows {pids : List Nat}
    (hkill : ∀ pid ∈ pids, (kill pid : Act σ Unit).Follows fun _ => R) :
    (killAlive pids : Act σ (List Bool)).Follows fun _ => R := by
  induction pids with
  | nil => exact follows_pure []
  | cons pid rest ih =>
      obtain ⟨hfirst, hkill⟩ := List.forall_mem_cons.mp hkill
      have hrest : ∀ alive, (do
          let others ← killAlive rest
          return (!alive) :: others : Act σ (List Bool)).Follows fun _ => R :=
        fun alive => (ih hkill).bind fun others => follows_pure _
      refine (isAlive_follows pid).bind fun alive => ?_
      cases alive with
      | true =>
          refine (follows_log _ _).bind fun _ => ?_
          exact hfirst.bind fun _ => hrest true
      | false => exact (follows_pure ()).bind fun _ => hrest false

/-! ### Waiting -/

theorem anyAlive_follows (pids : List Nat) :
    (anyAlive pids : Act σ Bool).Follows fun _ => R := by
  induction pids with
  | nil => exact follows_pure false
  | cons pid rest ih =>
      refine (isAlive_follows pid).bind fun alive => ?_
      cases alive with
      | true => exact follows_pure true
      | false => exact ih

theorem awaitExits_follows (pids : List Nat) (deadline : Rat) (looks : Nat) :
    (awaitExits pids deadline looks : Act σ Unit).Follows fun _ => R := by
  induction looks with
  | zero => exact follows_raise _
  | succ looks ih =>
      refine (anyAlive_follows pids).bind fun alive => ?_
      cases alive with
      | true =>
          refine (follows_askMachine _).bind fun now => ?_
          dsimp only
          split
          · have hsleep : (sleep (min stopPollInterval (deadline - now)) : Act σ Unit).Follows
                fun _ => R :=
              (follows_note rfl rfl).bind fun _ => follows_tryOperation (.sleep _)
            exact hsleep.bind fun _ => ih
          · exact follows_pure ()
      | false => exact follows_pure ()

/-! ### Stopping -/

theorem request_follows {op : σ → HttpOutcome × σ}
    (hop : ∀ machine, Machine.Goes machine (op machine).2)
    (hlose : ∀ id, (lose id : Act σ Unit).Follows fun _ => R) :
    (request op).Follows fun _ => R := by
  refine (follows_operation hop).bind fun outcome => ?_
  refine (follows_forM hlose outcome.forgotten).bind fun _ => ?_
  exact follows_ofExcept outcome.result

/-- Asking an instance to stop follows what posting to its page follows. -/
theorem requestStop_follows {thread baseUrl : String} {timeout : Rat}
    (hlose : ∀ id, (lose id : Act σ Unit).Follows fun _ => R)
    (hpost : (post thread (stopPage baseUrl) timeout : Act σ Unit).Follows fun _ => R) :
    (requestStop thread baseUrl timeout : Act σ Bool).Follows fun _ => R := by
  refine follows_bind_post hpost ?_
  refine (request_follows (.httpPost _ timeout) hlose).attempt.bind fun outcome => ?_
  split
  · split
    · exact follows_pure _
    · exact (follows_log _ _).bind fun _ => follows_pure _
  · exact (follows_log _ _).bind fun _ => follows_pure _
  · exact follows_throw _

theorem requestStops_follows {thread : String} (deadline : Rat) {targets : List (Nat × String)}
    (hrequest : ∀ target ∈ targets, ∀ timeout,
      (requestStop thread target.2 timeout : Act σ Bool).Follows fun _ => R) :
    (requestStops thread deadline targets : Act σ (List Nat)).Follows fun _ => R := by
  induction targets with
  | nil => exact follows_pure []
  | cons target rest ih =>
      obtain ⟨pid, baseUrl⟩ := target
      obtain ⟨hfirst, hrest⟩ := List.forall_mem_cons.mp hrequest
      refine (follows_askMachine _).bind fun now => ?_
      dsimp only
      split
      · exact follows_pure []
      · refine (isAlive_follows pid).bind fun alive => ?_
        cases alive with
        | true =>
            refine (hfirst _).bind fun agreed => ?_
            exact (ih hrest).bind fun others => follows_pure _
        | false =>
            refine (follows_pure false).bind fun agreed => ?_
            exact (ih hrest).bind fun others => follows_pure _

/-- Stopping follows what asking the targets to stop and killing them follow. -/
theorem stopAll_follows {thread : String} {targets : List (Nat × String)} (timeout : Rat)
    (hrequest : ∀ target ∈ targets, ∀ timeout,
      (requestStop thread target.2 timeout : Act σ Bool).Follows fun _ => R)
    (hkill : ∀ target ∈ targets, (kill target.1 : Act σ Unit).Follows fun _ => R) :
    (stopAll thread targets timeout : Act σ (List Bool)).Follows fun _ => R := by
  have hkilled : ∀ pid ∈ targets.map (·.1), (kill pid : Act σ Unit).Follows fun _ => R := by
    simpa using fun pid baseUrl hmem => hkill (pid, baseUrl) hmem
  refine (follows_askMachine _).bind fun now => ?_
  refine Follows.bind (Follows.ensuring ?_ (killAlive_follows hkilled)) fun _ => follows_pure _
  split
  · refine (requestStops_follows _ hrequest).bind fun agreed => ?_
    refine (follows_askMachine _).bind fun now => follows_get.bind fun world => ?_
    exact awaitExits_follows agreed _ _
  · exact follows_pure ()

theorem stopInstances_follows (deployer : Deployer) {instances : List Instance}
    (hrequest : ∀ i ∈ instances, ∀ timeout,
      (requestStop mainThread i.baseUrl timeout : Act σ Bool).Follows fun _ => R)
    (hkill : ∀ i ∈ instances, (kill i.pid : Act σ Unit).Follows fun _ => R) :
    (stopInstances deployer instances : Act σ Unit).Follows fun _ => R := by
  intro world
  refine yields_bind ((livingTargets_yields (R := R) instances world).mono ?_)
  rintro outcome asked between ⟨hasked, htargets⟩
  cases outcome with
  | error fault => exact hasked
  | ok targets =>
      have hstop : ∀ budget, (stopAll mainThread targets budget : Act σ (List Bool)).Follows
          fun _ => R := by
        intro budget
        refine stopAll_follows budget (fun target hmem => ?_) fun target hmem => ?_
        · obtain ⟨i, hi, rfl⟩ := htargets targets rfl target hmem
          exact hrequest i hi
        · obtain ⟨i, hi, rfl⟩ := htargets targets rfl target hmem
          exact hkill i hi
      have hrest := (follows_ofExcept (stopBudget deployer.settings.shutdownTimeout)).bind
        fun budget => (hstop budget).bind fun _ => follows_pure ()
      exact (hrest between).mono fun _ _ _ hmore => Composes.append hasked hmore

end Watched

/-! ### Requests -/

section Asked

variable [IsStopFrame R]

theorem killLiving_stops (instances : List Instance) :
    (killLiving instances : Act σ Unit).Follows fun _ => R :=
  killLiving_follows fun i _ => IsStopFrame.kill i.pid

variable {thread : String} [IsAskFrame thread R]

theorem probePage_stops (baseUrl : String) :
    (probePage thread baseUrl : Act σ State).Follows fun _ => R := by
  refine follows_bind_ask baseUrl fun world => ?_
  refine (request_follows (.httpGet baseUrl _) IsStopFrame.lose).attempt.bind fun outcome => ?_
  split
  · exact (follows_note rfl rfl).bind fun _ => follows_pure _
  · exact (follows_log _ _).bind fun _ => follows_pure _
  · exact follows_throw _

theorem probe_stops (pid : Nat) (baseUrl : String) :
    (probe thread pid baseUrl : Act σ State).Follows fun _ => R := by
  refine (exitCode_follows pid).attempt.bind fun outcome => ?_
  split
  · exact follows_pure _
  · exact probePage_stops baseUrl
  · split
    · exact (follows_log _ _).bind fun _ => follows_pure _
    · exact follows_throw _

theorem requestStop_stops (baseUrl : String) (timeout : Rat) :
    (requestStop thread baseUrl timeout : Act σ Bool).Follows fun _ => R :=
  requestStop_follows IsStopFrame.lose (IsAskFrame.posts _ timeout)

theorem stopAll_stops (targets : List (Nat × String)) (timeout : Rat) :
    (stopAll thread targets timeout : Act σ (List Bool)).Follows fun _ => R :=
  stopAll_follows timeout (fun target _ => requestStop_stops target.2)
    fun target _ => IsStopFrame.kill target.1

end Asked

/-! ### All work of a deployer -/

variable [IsStopFrame R] [IsAskFrame mainThread R]

theorem status_stops (id : String) :
    (status id : Act σ AppStatus).Follows fun _ => R := by
  have hstatuses : ∀ instances, (instanceStatuses instances : Act σ _).Follows
      fun _ => R := by
    intro instances
    induction instances with
    | nil => exact follows_pure []
    | cons i rest ih =>
        refine (probe_stops i.pid i.baseUrl).bind fun state => ih.bind fun others => ?_
        exact follows_pure _
  refine follows_get.bind fun world => ?_
  split
  · exact follows_pure _
  · exact (hstatuses _).bind fun statuses => follows_pure _

theorem stopInstances_stops (deployer : Deployer) (instances : List Instance) :
    (stopInstances deployer instances : Act σ Unit).Follows fun _ => R :=
  stopInstances_follows deployer (fun i _ => requestStop_stops i.baseUrl)
    fun i _ => IsStopFrame.kill i.pid

end Act

end AppSupervisor
