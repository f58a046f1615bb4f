import AppSupervisor.Proofs.LaunchOrders
import AppSupervisor.Proofs.Variables

/-!
What the host hides from an app does not matter.

Two actions agree if they do the same step by step, but for environments that are written in another
way. Whatever does not launch agrees with itself, since nothing looks at the journal. So two plans
that differ in how they write their environment are carried out alike, instance by instance, on a
machine that sees of an environment only what is in it.
-/

namespace AppSupervisor

variable {σ α β : Type}

structure LaunchOrder.Alike (order other : LaunchOrder) : Prop where
  command : order.command = other.command
  workDir : order.workDir = other.workDir
  index : order.index = other.index
  environment : ∀ name, order.environment.lookup name = other.environment.lookup name

/-- A machine that sees of an environment which variables it has, not how it is written. -/
def SeesVariables (σ : Type) [Machine σ] : Prop :=
  ∀ (order other : LaunchOrder) (machine : σ), order.Alike other →
    Machine.launch order machine = Machine.launch other machine

inductive Event.Alike : Event → Event → Prop
  | same (event : Event) : Alike event event
  | launched {order other : LaunchOrder} (pid : Nat) (horders : order.Alike other) :
      Alike (.launched order pid) (.launched other pid)
  | refused {order other : LaunchOrder} (fault : Fault) (horders : order.Alike other) :
      Alike (.refusedLaunch order fault) (.refusedLaunch other fault)

def World.Alike (world next : World σ) : Prop :=
  ∃ journal, next = { world with journal }

theorem World.Alike.refl (world : World σ) : world.Alike world :=
  ⟨world.journal, rfl⟩

theorem alike_refl (done : List Event) : List.Forall₂ Event.Alike done done :=
  List.forall₂_same.mpr fun event _ => .same event

theorem forall₂_launches {done more : List Event} (h : List.Forall₂ Event.Alike done more) :
    List.Forall₂ (fun launch other => launch.1.Alike other.1 ∧ launch.2 = other.2)
      (launchesIn done) (launchesIn more) := by
  induction h with
  | nil => exact .nil
  | @cons event _ _ _ hevents _ ih =>
      cases hevents with
      | launched pid horders => exact .cons ⟨horders, rfl⟩ ih
      | refused fault => exact ih
      | same =>
          cases event with
          | launched order pid => exact .cons ⟨⟨rfl, rfl, rfl, fun _ => rfl⟩, rfl⟩ ih
          | _ => exact ih

namespace Act

/-- Two actions from two worlds end alike, with alike events on the way. -/
def AgreeAt (act other : Act σ α) (world next : World σ) : Prop :=
  act.Yields world fun outcome done after => other.Yields next fun result more behind =>
    result = outcome ∧ List.Forall₂ Event.Alike done more ∧ after.Alike behind

def Agree (act other : Act σ α) : Prop :=
  ∀ world next, world.Alike next → AgreeAt act other world next

section Rules

variable {act other : Act σ α} {next next' : α → Act σ β} {world behind : World σ}

/-- Actions that agree from two worlds still agree when they go on with actions that agree
everywhere. -/
theorem AgreeAt.bind (h : AgreeAt act other world behind) (hnext : ∀ a, Agree (next a) (next' a)) :
    AgreeAt (act >>= next) (other >>= next') world behind := by
  refine yields_bind (h.mono fun outcome done after hother => ?_)
  cases outcome with
  | error fault =>
      refine yields_bind (hother.mono ?_)
      rintro result more behind ⟨rfl, hdone, hafter⟩
      exact ⟨rfl, hdone, hafter⟩
  | ok a =>
      obtain ⟨more, hjournal, hresult, hdone, hafter⟩ := hother
      refine (hnext a _ _ hafter).mono fun outcome rest last hlast => ?_
      refine yields_bind ⟨more, hjournal, ?_⟩
      simp only [hresult]
      refine hlast.mono ?_
      rintro result others behind ⟨rfl, hrest, hend⟩
      exact ⟨rfl, List.rel_append hdone hrest, hend⟩

theorem Agree.bind (h : Agree act other) (hnext : ∀ a, Agree (next a) (next' a)) :
    Agree (act >>= next) (other >>= next') :=
  fun world behind halike => (h world behind halike).bind hnext

/-- From one world, one action ends in one way. -/
theorem agreeAt_bind_same (h : act.Yields world fun outcome _ after =>
      ∀ a, outcome = .ok a → AgreeAt (next a) (next' a) after after) :
    AgreeAt (act >>= next) (act >>= next') world world := by
  obtain ⟨done, hjournal, hnext⟩ := h
  refine yields_bind ⟨done, hjournal, ?_⟩
  rcases hperform : act.perform world with ⟨fault | a, after⟩
  · refine yields_bind ⟨done, hjournal, ?_⟩
    rw [hperform]
    exact ⟨rfl, alike_refl done, .refl after⟩
  · rw [hperform] at hnext
    refine (hnext a rfl).mono fun outcome more last hlast => yields_bind ⟨done, hjournal, ?_⟩
    rw [hperform]
    refine hlast.mono ?_
    rintro result others behind ⟨rfl, hmore, hend⟩
    exact ⟨rfl, List.rel_append (alike_refl done) hmore, hend⟩

theorem agree_pure (a : α) : Agree (pure a : Act σ α) (pure a) :=
  fun _ _ halike => yields_pure (yields_pure ⟨rfl, .nil, halike⟩)

theorem agree_throw (fault : Fault) : Agree (throw fault : Act σ α) (throw fault) :=
  fun _ _ halike => yields_throw (yields_throw ⟨rfl, .nil, halike⟩)

theorem agree_note {event event' : Event} (h : event.Alike event') :
    Agree (note event : Act σ Unit) (note event') := by
  rintro world _ ⟨journal, rfl⟩
  exact yields_note (yields_note ⟨rfl, .cons h .nil, event' :: journal, rfl⟩)

theorem agree_raise (fault : Fault) : Agree (raise fault : Act σ α) (raise fault) :=
  (agree_note (.same _)).bind fun _ => agree_throw fault

theorem agree_ofExcept (outcome : Except Fault α) :
    Agree (ofExcept outcome : Act σ α) (ofExcept outcome) := by
  cases outcome with
  | error fault => exact agree_raise fault
  | ok a => exact agree_pure a

theorem agree_onMachine {op op' : σ → α × σ} (h : ∀ machine, op' machine = op machine) :
    Agree (onMachine op) (onMachine op') := by
  rintro world _ ⟨journal, rfl⟩
  refine yields_onMachine (yields_onMachine ⟨?_, .nil, journal, ?_⟩) <;> simp [h]

theorem agree_modify {f : World σ → World σ} (hjournal : ∀ world, (f world).journal = world.journal)
    (h : ∀ world behind, World.Alike world behind → (f world).Alike (f behind)) :
    Agree (modify f : Act σ Unit) (modify f) :=
  fun world behind halike => yields_modify (hjournal world)
    (yields_modify (hjournal behind) ⟨rfl, .nil, h world behind halike⟩)

theorem AgreeAt.attempt (h : AgreeAt act other world behind) :
    AgreeAt (attempt act) (attempt other) world behind := by
  refine yields_attempt (h.mono fun outcome done after hother => ?_)
  refine yields_attempt (hother.mono ?_)
  rintro result more behind ⟨rfl, hdone, hafter⟩
  exact ⟨rfl, hdone, hafter⟩

theorem Agree.attempt (h : Agree act other) : Agree (attempt act) (attempt other) :=
  fun world behind halike => (h world behind halike).attempt

end Rules

variable [Machine σ]

/-! ### Ports -/

theorem isPortFree_agree (port : Int) (host : String) :
    Agree (isPortFree port host : Act σ Bool) (isPortFree port host) :=
  ((agree_onMachine fun _ => rfl).bind agree_ofExcept).bind fun isFree =>
    (agree_note (.same _)).bind fun _ => agree_pure isFree

theorem draw_agree (low high : Int) : Agree (draw low high : Act σ Int) (draw low high) :=
  (agree_onMachine fun _ => rfl).bind fun value =>
    (agree_note (.same _)).bind fun _ => agree_pure value

theorem drawPort_agree (low high : Int) (host : String) (excluded : List Int) (count : Nat) :
    Agree (drawPort low high host excluded count : Act σ (Option Int))
      (drawPort low high host excluded count) := by
  induction count with
  | zero => exact agree_pure none
  | succ count ih =>
      refine (draw_agree low high).bind fun port => ?_
      split
      · exact ih
      · refine (isPortFree_agree port host).bind fun isFree => ?_
        split
        · exact agree_pure (some port)
        · exact ih

theorem searchPort_agree (host : String) (excluded : List Int) (port : Int) (count : Nat) :
    Agree (searchPort host excluded port count : Act σ (Option Int))
      (searchPort host excluded port count) := by
  induction count generalizing port with
  | zero => exact agree_pure none
  | succ count ih =>
      unfold searchPort
      split
      · exact ih (port + 1)
      · refine (isPortFree_agree port host).bind fun isFree => ?_
        split
        · exact agree_pure (some port)
        · exact ih (port + 1)

theorem allocatePort_agree (host : String) (allocated : List Int)
    (properties : List (String × String)) (arguments : List String) :
    Agree (allocatePort host allocated properties arguments : Act σ (Int × List Int))
      (allocatePort host allocated properties arguments) := by
  have hfind : Agree (findPort firstPort maxPort host allocated : Act σ Int)
      (findPort firstPort maxPort host allocated) := by
    refine (drawPort_agree _ _ host allocated _).bind fun drawn => ?_
    cases drawn with
    | some port => exact agree_pure port
    | none =>
        refine (searchPort_agree host allocated _ _).bind fun found => ?_
        cases found with
        | some port => exact agree_pure port
        | none => exact agree_raise _
  refine (agree_ofExcept _).bind fun named => ?_
  cases named with
  | some port => exact agree_pure _
  | none => exact hfind.bind fun port => (agree_note (.same _)).bind fun _ => agree_pure _

/-! ### Launches -/

theorem killStarted_agree (id : String) (started : List Instance) :
    Agree (killStarted id started : Act σ Unit) (killStarted id started) := by
  induction started with
  | nil => exact agree_pure ()
  | cons i rest ih =>
      have hkill : Agree (kill i.pid : Act σ Unit) (kill i.pid) :=
        (agree_note (.same _)).bind fun _ => agree_onMachine fun _ => rfl
      exact (agree_note (.same _)).bind fun _ => hkill.bind fun _ => ih

theorem launch_agree (hsees : SeesVariables σ) {order other : LaunchOrder}
    (horders : order.Alike other) : Agree (launch order : Act σ Nat) (launch other) := by
  refine (agree_onMachine fun machine => (hsees order other machine horders).symm).bind
    fun outcome => ?_
  cases outcome with
  | ok pid => exact (agree_note (.launched pid horders)).bind fun _ => agree_pure pid
  | error fault => exact (agree_note (.refused fault horders)).bind fun _ => agree_raise fault

end Act

def Plan.withEnvironment (plan : Plan) (environment : Command.Variables) : Plan :=
  { plan with environment }

theorem Plan.order_alike (plan : Plan) {shared other : Command.Variables}
    (h : ∀ name, shared.lookup name = other.lookup name) (port : Int) (index : Nat) :
    ((plan.withEnvironment shared).order port index).Alike
      ((plan.withEnvironment other).order port index) := by
  refine ⟨rfl, rfl, rfl, fun name => ?_⟩
  simp [order, withEnvironment, Command.environmentOf, Command.lookup_putAll, h]

namespace Act

variable [Machine σ]

/-- Only the lookups of an environment matter to a launch, not the order of its entries. -/
theorem launchMore_agree (hsees : SeesVariables σ) (plan : Plan) {shared other : Command.Variables}
    (h : ∀ name, shared.lookup name = other.lookup name) (count : Nat) (started : List Instance)
    (allocated : List Int) :
    Agree (launchMore (plan.withEnvironment shared) count started allocated : Act σ _)
      (launchMore (plan.withEnvironment other) count started allocated) := by
  have hinstance (index : Nat) (allocated : List Int) :
      Agree (launchInstance (plan.withEnvironment shared) index allocated : Act σ _)
        (launchInstance (plan.withEnvironment other) index allocated) := by
    refine (allocatePort_agree _ _ _ _).bind fun chosen => ?_
    refine (launch_agree hsees (plan.order_alike h chosen.1 index)).attempt.bind fun outcome => ?_
    cases outcome with
    | ok pid => exact (agree_note (.same _)).bind fun _ => agree_pure _
    | error fault => exact agree_throw _
  induction count generalizing started allocated with
  | zero => exact agree_pure started
  | succ count ih =>
      refine (hinstance _ allocated).attempt.bind fun outcome => ?_
      rcases outcome with fault | ⟨i, allocated⟩
      · exact (killStarted_agree _ started).bind fun _ => agree_throw fault
      · exact ih _ _

/-! ### Deployments -/

/-- What is settled before a launch depends on the host only by what is inherited from it. -/
theorem planFor_eq {settings : Settings} {environment other shared shared' : Command.Variables}
    {id : String} {request : Request}
    (h : Command.environmentFor settings environment id request = .ok shared)
    (h' : Command.environmentFor settings other id request = .ok shared') :
    (planFor settings other id request : Act σ Plan) =
      (·.withEnvironment shared') <$> planFor settings environment id request := by
  unfold planFor
  rw [h, h']
  simp [ofExcept, Plan.withEnvironment]

theorem launchAll_agreeAt (hsees : SeesVariables σ) (settings : Settings)
    {environment other : Command.Variables} {request : Request}
    (h : ∀ name, Command.isInherited settings request name →
      environment.lookup name = other.lookup name) (id : String) (world : World σ) :
    AgreeAt (launchAll ⟨settings, environment⟩ id request)
      (launchAll ⟨settings, other⟩ id request) world world := by
  unfold launchAll
  refine agreeAt_bind_same (yields_ofExcept (fun count _ => ?_) fun fault _ => by simp)
  rintro _ ⟨rfl⟩
  have hprepared := planFor_prepared settings environment id request world
  -- either both fail in the same way, or there is one plan but for the environment in it
  rcases Command.environmentFor_agrees h id with
    ⟨fault, henvironment, hother⟩ | ⟨shared, shared', henvironment, hother, hlookup⟩
  · have hsame : (planFor settings other id request : Act σ Plan) =
        planFor settings environment id request := by
      unfold planFor
      rw [henvironment, hother]
    simp only [hsame]
    refine agreeAt_bind_same ((hprepared.and
      (planFor_planOf ⟨settings, environment⟩ id request world)).mono ?_)
    rintro _ planned between ⟨-, hplan⟩ plan rfl
    have hok := (hplan plan rfl).environment
    rw [henvironment] at hok
    contradiction
  · dsimp only
    rw [planFor_eq henvironment henvironment, planFor_eq henvironment hother, bind_map_left,
      bind_map_left]
    refine agreeAt_bind_same (hprepared.mono ?_)
    rintro _ planned between - plan rfl
    exact launchMore_agree hsees plan hlookup count [] [] between between (.refl between)

/-- Variables of the host that are not inherited have no influence on a deployment. -/
theorem deploy_agreeAt (hsees : SeesVariables σ) (settings : Settings)
    {environment other : Command.Variables} {request : Request}
    (h : ∀ name, Command.isInherited settings request name →
      environment.lookup name = other.lookup name) (world : World σ) :
    AgreeAt (deploy ⟨settings, environment⟩ (some request))
      (deploy ⟨settings, other⟩ (some request)) world world := by
  refine agreeAt_bind_same ((reserve_cases request.deploymentId world).mono ?_)
  rintro _ first claimed - _ -
  refine (launchAll_agreeAt hsees settings h request.deploymentId claimed).attempt.bind
    fun outcome => ?_
  have hregistry (f : Registry (List Instance) → Registry (List Instance)) :
      Agree (modify fun world => { world with registry := f world.registry } : Act σ Unit)
        (modify fun world => { world with registry := f world.registry }) :=
    agree_modify (fun _ => rfl) fun world _ ⟨journal, hnext⟩ => ⟨journal, by rw [hnext]⟩
  have hpublish (id : String) (instances : List Instance) :
      Agree (publish id instances : Act σ Unit) (publish id instances) :=
    (hregistry (·.publish id instances)).bind fun _ => agree_note (.same _)
  have hrelease (id : String) : Agree (release id : Act σ Unit) (release id) :=
    hregistry (·.release id)
  cases outcome with
  | ok instances =>
      refine (hpublish request.deploymentId instances).bind fun _ => ?_
      exact (agree_note (.same _)).bind fun _ => agree_pure _
  | error fault => exact (hrelease request.deploymentId).bind fun _ => agree_throw fault

end Act

end AppSupervisor
