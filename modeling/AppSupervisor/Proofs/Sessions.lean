import AppSupervisor.Proofs.Launching
import AppSupervisor.Proofs.Operations
import AppSupervisor.Proofs.WorkDirectories

/-!
The sessions that requests go through.

Without a shared session, a thread has no session yet, or a live one, or a stale one: to close the
sessions of a prober makes a live one stale, but the thread keeps it, and no later request opens
another. What every call preserves is that the trace of sessions leads from one of the three to the
next, and from this the whole trace is known.
-/

namespace AppSupervisor

variable {σ : Type}

inductive SessionEvent
  | opened (session : Nat)
  | used (session : Nat)
  | closed (session : Nat)
  deriving DecidableEq

def SessionEvent.isUse : SessionEvent → Bool
  | .used _ => true
  | _ => false

def SessionEvent.isClosing : SessionEvent → Bool
  | .closed _ => true
  | _ => false

@[simp]
def Event.session? : Event → Option SessionEvent
  | .openedSession session => some (.opened session)
  | .askedPage session _ _ | .posted session _ _ => some (.used session)
  | .closedSession session => some (.closed session)
  | _ => none

abbrev sessionsIn (done : List Event) : List SessionEvent := picked Event.session? done

theorem Event.session?_of_quiet (event : Event) (h : event.isQuiet) : event.session? = none := by
  cases event <;> simp_all [isQuiet]

theorem sessionsIn_singleton_eq_nil {event : Event} (h : event.session? = none) :
    sessionsIn [event] = [] :=
  picked_eq_nil_iff.mpr fun other hmem => by rw [List.mem_singleton.mp hmem, h]

/-! ### Traces of sessions -/

def SentOpen (trace : List SessionEvent) : Prop :=
  ∀ before session after, trace = before ++ .used session :: after →
    .opened session ∈ before ∧ .closed session ∉ before

def LeftClosed (trace : List SessionEvent) : Prop :=
  ∀ before session after, trace = before ++ .used session :: after → .closed session ∈ after

def sendsLate : List SessionEvent → Bool
  | [] => false
  | event :: rest => (event.isClosing && rest.any SessionEvent.isUse) || sendsLate rest

section Traces

variable {trace : List SessionEvent} {session : Nat}

theorem sendsLate_concat (trace : List SessionEvent) (event : SessionEvent) :
    sendsLate (trace ++ [event]) =
      (sendsLate trace || (trace.any SessionEvent.isClosing && event.isUse)) := by
  induction trace with
  | nil => simp [sendsLate]
  | cons first rest ih =>
      simp only [List.cons_append, sendsLate, ih, List.any_append, List.any_cons, List.any_nil,
        Bool.or_false]
      cases first.isClosing <;> cases event.isUse <;> simp

theorem sendsLate_eq_false (h : ∀ session, .closed session ∉ trace) : sendsLate trace = false := by
  induction trace with
  | nil => rfl
  | cons event rest ih =>
      have hrest : ∀ session, .closed session ∉ rest := by
        intro session hmem
        exact h session (List.mem_cons_of_mem event hmem)
      have hevent : event.isClosing = false := by
        cases event with
        | closed session => exact absurd (List.mem_cons_self ..) (h session)
        | _ => rfl
      simp [sendsLate, hevent, ih hrest]

theorem sentOpen_nil : SentOpen [] := by
  intro before session after hsplit
  simp at hsplit

theorem leftClosed_nil : LeftClosed [] := by
  intro before session after hsplit
  simp at hsplit

theorem sentOpen_concat {event : SessionEvent} : SentOpen (trace ++ [event]) ↔ SentOpen trace ∧
    ∀ session, event = .used session → .opened session ∈ trace ∧ .closed session ∉ trace := by
  constructor
  · intro h
    refine ⟨fun before session after hsplit => ?_, fun session hevent => ?_⟩
    · exact h before session (after ++ [event]) (by simp [hsplit])
    · exact h trace session [] (by rw [hevent])
  · rintro ⟨htrace, hevent⟩ before session after hsplit
    rcases List.eq_nil_or_concat after with rfl | ⟨after, last, rfl⟩
    · obtain ⟨rfl, hlast⟩ := List.append_inj' hsplit rfl
      exact hevent session (List.singleton_inj.mp hlast)
    · have hsplit' : trace ++ [event] = (before ++ .used session :: after) ++ [last] := by
        simpa using hsplit
      exact htrace before session after (List.append_inj' hsplit' rfl).1

theorem not_sentOpen_concat_used (hclosed : .closed session ∈ trace) :
    ¬SentOpen (trace ++ [.used session]) := by
  intro hsent
  exact ((sentOpen_concat.mp hsent).2 session rfl).2 hclosed

theorem leftClosed_concat_closed (h : ∀ other, .used other ∈ trace → other = session) :
    LeftClosed (trace ++ [.closed session]) := by
  intro before other after hsplit
  rcases List.eq_nil_or_concat after with rfl | ⟨after, last, rfl⟩
  · have hlast := (List.append_inj' hsplit rfl).2
    simp at hlast
  · have hsplit' : trace ++ [.closed session] = (before ++ .used other :: after) ++ [last] := by
      simpa using hsplit
    obtain ⟨rfl, hlast⟩ := List.append_inj' hsplit' rfl
    obtain rfl := h other (by simp)
    simp [← List.singleton_inj.mp hlast]

theorem not_leftClosed_concat_used : ¬LeftClosed (trace ++ [.used session]) := by
  intro h
  have hnone := h trace session [] rfl
  contradiction

end Traces

/-! ### The session of a thread -/

inductive Slot
  | idle
  | live (session : Nat)
  | stale (session : Nat)

inductive Trail (start : Slot) : List SessionEvent → Slot → Prop
  | nil : Trail start [] start
  | opened {trace : List SessionEvent} (session : Nat) (h : Trail start trace .idle) :
      Trail start (trace ++ [.opened session]) (.live session)
  | used {trace : List SessionEvent} {session : Nat} (h : Trail start trace (.live session)) :
      Trail start (trace ++ [.used session]) (.live session)
  | closed {trace : List SessionEvent} {session : Nat} (h : Trail start trace (.live session)) :
      Trail start (trace ++ [.closed session]) (.stale session)
  | reused {trace : List SessionEvent} {session : Nat} (h : Trail start trace (.stale session)) :
      Trail start (trace ++ [.used session]) (.stale session)

namespace Trail

variable {start between last : Slot} {trace more : List SessionEvent} {session : Nat}

theorem append (h : Trail start trace between) (hmore : Trail between more last) :
    Trail start (trace ++ more) last := by
  induction hmore with
  | nil => simpa using h
  | opened session _ ih => simpa using ih.opened session
  | used _ ih => simpa using ih.used
  | closed _ ih => simpa using ih.closed
  | reused _ ih => simpa using ih.reused

theorem eq_nil (h : Trail .idle trace .idle) : trace = [] := by
  cases h
  rfl

/-- As long as its session is live, a thread has opened it, used no other and closed none. -/
theorem of_live (h : Trail .idle trace (.live session)) :
    .opened session ∈ trace ∧ (∀ other, .used other ∈ trace → other = session) ∧
      (∀ other, .closed other ∉ trace) ∧ SentOpen trace := by
  generalize hlast : Slot.live session = last at h
  -- Only an opening and a use lead to a live session, and a use changes nothing about it.
  induction h with
  | nil => contradiction
  | opened other h _ =>
      cases hlast
      rw [h.eq_nil]
      exact ⟨by simp, by simp, by simp, sentOpen_concat.mpr ⟨sentOpen_nil, by simp⟩⟩
  | used h ih =>
      cases hlast
      obtain ⟨hopened, huses, hcloses, hsent⟩ := ih rfl
      refine ⟨by simp [hopened], ?_, by simpa using hcloses, ?_⟩
      · intro other hmem
        rcases List.mem_append.mp hmem with hmem | hmem
        · exact huses other hmem
        · simpa using hmem
      refine sentOpen_concat.mpr ⟨hsent, ?_⟩
      rintro other ⟨rfl⟩
      exact ⟨hopened, hcloses session⟩
  | closed h _ => contradiction
  | reused h _ => contradiction

theorem sendsLate_of_live (h : Trail .idle trace (.live session)) : sendsLate trace = false :=
  sendsLate_eq_false h.of_live.2.2.1

/-- A stale session was closed, and a request behind that is the only way for one to go through a
closed session, or to leave a session without a close behind it. -/
theorem of_stale (h : Trail .idle trace (.stale session)) :
    .closed session ∈ trace ∧ (SentOpen trace ↔ sendsLate trace = false) ∧
      (LeftClosed trace ↔ sendsLate trace = false) := by
  generalize hlast : Slot.stale session = last at h
  -- The first step to a stale session closes a live one; each further one is a request too late.
  induction h with
  | nil => contradiction
  | opened other h _ => contradiction
  | used h _ => contradiction
  | @closed trace other h _ =>
      cases hlast
      obtain ⟨-, huses, -, hsent⟩ := h.of_live
      have hlate : sendsLate (trace ++ [.closed session]) = false := by
        rw [sendsLate_concat, h.sendsLate_of_live]
        simp [SessionEvent.isUse]
      refine ⟨by simp, iff_of_true ?_ hlate, iff_of_true ?_ hlate⟩
      · exact sentOpen_concat.mpr ⟨hsent, by simp⟩
      · exact leftClosed_concat_closed huses
  | @reused trace other h ih =>
      cases hlast
      obtain ⟨hclosed, -, -⟩ := ih rfl
      have hlate : sendsLate (trace ++ [.used session]) = true := by
        have hany : trace.any SessionEvent.isClosing := List.any_eq_true.mpr ⟨_, hclosed, rfl⟩
        rw [sendsLate_concat, hany]
        simp [SessionEvent.isUse]
      have hnot : sendsLate (trace ++ [.used session]) ≠ false := by simp [hlate]
      refine ⟨by simp [hclosed], iff_of_false ?_ hnot, iff_of_false ?_ hnot⟩
      · exact not_sentOpen_concat_used hclosed
      · exact not_leftClosed_concat_used

theorem sentOpen_iff {slot : Slot} (h : Trail .idle trace slot) :
    SentOpen trace ↔ sendsLate trace = false := by
  cases slot with
  | idle =>
      rw [h.eq_nil]
      exact iff_of_true sentOpen_nil rfl
  | live session => exact iff_of_true h.of_live.2.2.2 h.sendsLate_of_live
  | stale session => exact h.of_stale.2.1

theorem leftClosed_iff {slot : Slot} (h : Trail .idle trace slot)
    (hslot : ∀ session, slot ≠ .live session) : LeftClosed trace ↔ sendsLate trace = false := by
  cases slot with
  | idle =>
      rw [h.eq_nil]
      exact iff_of_true leftClosed_nil rfl
  | live session => exact absurd rfl (hslot session)
  | stale session => exact h.of_stale.2.2

end Trail

/-- What is in the slot of a thread of a prober without a shared session that serves no other
thread. -/
def Slot.IsIn (thread : String) (prober : Prober) : Slot → Prop
  | .idle => prober.shared = none ∧ prober.byThread.lookup thread = none ∧ prober.toClose = []
  | .live session => prober.shared = none ∧ prober.byThread.lookup thread = some session ∧
      prober.toClose = [session]
  | .stale session => prober.shared = none ∧ prober.byThread.lookup thread = some session ∧
      prober.toClose = []

def Trails (thread : String) (world : World σ) (done : List Event) (after : World σ) : Prop :=
  ∀ slot : Slot, slot.IsIn thread world.prober →
    ∃ next : Slot, next.IsIn thread after.prober ∧ Trail slot (sessionsIn done) next

/-- Neither the prober nor its sessions are touched. -/
theorem trails_of_prober_eq {thread : String} {world after : World σ} {done : List Event}
    (hprober : after.prober = world.prober) (hnone : sessionsIn done = []) :
    Trails thread world done after := by
  intro slot hslot
  refine ⟨slot, hprober ▸ hslot, ?_⟩
  rw [hnone]
  exact .nil

theorem Trails.append {thread : String} {world between after : World σ} {done more : List Event}
    (hdone : Trails thread world done between) (hmore : Trails thread between more after) :
    Trails thread world (done ++ more) after := by
  intro slot hslot
  obtain ⟨next, hnext, htrail⟩ := hdone slot hslot
  obtain ⟨last, hlast, htrail'⟩ := hmore next hnext
  exact ⟨last, hlast, by simpa using htrail.append htrail'⟩

instance (thread : String) :
    IsFrame fun _ => (Trails thread : World σ → List Event → World σ → Prop) :=
  IsFrame.always (fun _ => trails_of_prober_eq rfl rfl) Trails.append
    (fun _ _ => trails_of_prober_eq rfl rfl) fun _ event hquiet =>
      trails_of_prober_eq rfl (sessionsIn_singleton_eq_nil (Event.session?_of_quiet event hquiet))

namespace Act

variable {thread : String}

theorem note_trails {event : Event} (hnone : event.session? = none) :
    (note event : Act σ Unit).Follows fun _ => Trails thread :=
  fun _ => yields_note (trails_of_prober_eq rfl (sessionsIn_singleton_eq_nil hnone))

/-- A request goes through the session that the thread has, be it stale, or through a new one. -/
theorem sessionOf_bind_trails {α : Type} {next : Nat → Act σ α}
    (hnext : ∀ session world, (next session).Yields world fun _ done after =>
      after.prober = world.prober ∧ sessionsIn done = [.used session]) :
    (sessionOf thread >>= next).Follows fun _ => Trails thread := by
  intro world
  refine yields_bind (yields_bind_get ?_)
  split
  · rename_i session hsome
    refine yields_pure ((hnext session world).mono fun outcome done after hused slot hslot => ?_)
    rw [List.nil_append, hused.2]
    refine ⟨slot, hused.1 ▸ hslot, ?_⟩
    cases slot with
    | idle => simp [hslot.1, hslot.2.1] at hsome
    | live other =>
        obtain rfl : other = session := by simpa [hslot.1, hslot.2.1] using hsome
        exact Trail.nil.used
    | stale other =>
        obtain rfl : other = session := by simpa [hslot.1, hslot.2.1] using hsome
        exact Trail.nil.reused
  · rename_i hnone
    refine yields_bind (yields_set rfl (yields_bind_note (yields_pure ?_)))
    refine (hnext _ _).mono fun outcome done after hused slot hslot => ?_
    cases slot with
    | idle =>
        refine ⟨.live (world.sessionCount + 1), ?_, ?_⟩
        · rw [hused.1]
          exact ⟨hslot.1, by simp, by simp [hslot.2.2]⟩
        · have htrace : sessionsIn ([.openedSession (world.sessionCount + 1)] ++ done) =
              [.opened (world.sessionCount + 1), .used (world.sessionCount + 1)] :=
            (picked_append _ _ done).trans (congrArg _ hused.2)
          exact htrace ▸ (Trail.nil.opened _).used
    | live other => simp [hslot.1, hslot.2.1] at hnone
    | stale other => simp [hslot.1, hslot.2.1] at hnone

instance (thread : String) :
    IsAskFrame thread (Trails thread : World σ → List Event → World σ → Prop) where
  asks _ := sessionOf_bind_trails fun _ _ =>
    yields_bind_get (yields_bind_note (yields_pure ⟨rfl, rfl⟩))
  posts _ _ := sessionOf_bind_trails fun _ _ => yields_note ⟨rfl, rfl⟩

/-- To close the sessions makes a live one stale, and does nothing to a stale one. -/
theorem closeSessions_trails (thread : String) (world : World σ) :
    (closeSessions : Act σ Unit).Yields world fun outcome done after => outcome = .ok () ∧
      Trails thread world done after ∧ after.prober.toClose = [] := by
  refine yields_bind_get (yields_bind (yields_modify rfl ((yields_forM_note _ _ _).mono ?_)))
  rintro outcome done after ⟨rfl, hdone, rfl⟩
  refine ⟨rfl, fun slot hslot => ?_, rfl⟩
  subst hdone
  cases slot with
  | idle => exact ⟨.idle, ⟨hslot.1, hslot.2.1, rfl⟩, by simpa [hslot.1, hslot.2.2] using .nil⟩
  | live session =>
      refine ⟨.stale session, ⟨hslot.1, hslot.2.1, rfl⟩, ?_⟩
      simpa [hslot.1, hslot.2.2] using Trail.nil.closed
  | stale session =>
      exact ⟨.stale session, ⟨hslot.1, hslot.2.1, rfl⟩, by simpa [hslot.1, hslot.2.2] using .nil⟩

variable [Machine σ]

instance (thread : String) :
    IsStopFrame (Trails thread : World σ → List Event → World σ → Prop) where
  lose _ _ := yields_bind (yields_modify rfl (yields_note (trails_of_prober_eq rfl rfl)))
  kill _ := kill_follows fun _ _ => trails_of_prober_eq rfl rfl

theorem deploy_trails (deployer : Deployer) (request? : Option Request) :
    (deploy deployer request? : Act σ String).Follows fun _ => Trails thread := by
  have hlaunch (order : LaunchOrder) : (launch order : Act σ Nat).Follows
      fun _ => Trails thread := by
    intro world
    refine yields_bind_onMachine ?_
    split
    · exact yields_bind_note (yields_pure (trails_of_prober_eq rfl rfl))
    · exact yields_bind_note (yields_raise (trails_of_prober_eq rfl rfl))
  exact deploy_follows (fun _ _ => trails_of_prober_eq rfl rfl)
    (fun _ _ => trails_of_prober_eq rfl rfl) hlaunch IsStopFrame.kill deployer request?

theorem deleteWorkRoot_trails (deployer : Deployer) :
    (deleteWorkRoot deployer : Act σ Unit).Follows fun _ => Trails thread :=
  deleteWorkRoot_follows deployer (fun _ => note_trails rfl) fun _ _ => trails_of_prober_eq rfl rfl

theorem undeploy_trails (deployer : Deployer) (id : String) :
    (undeploy deployer id : Act σ Unit).Follows fun _ => Trails mainThread :=
  undeploy_follows (fun _ _ => yields_modify rfl (trails_of_prober_eq rfl rfl)) deployer id

/-- A shutdown that comes to its end has closed the sessions. -/
theorem shutdown_trails (deployer : Deployer) (world : World σ) :
    (shutdown deployer).Yields world fun outcome done after => Trails mainThread world done after ∧
      (outcome = .ok () → after.prober.toClose = []) := by
  have hall (ids : List String) :
      (undeployAll deployer ids : Act σ Unit).Follows fun _ => Trails mainThread :=
    undeployAll_follows (undeploy_trails deployer) ids
  have hdelete : (deleteWorkRoot deployer : Act σ Unit).Follows fun _ => Trails mainThread :=
    deleteWorkRoot_trails deployer
  refine yields_bind_get (yields_bind ((hall _ world).mono fun outcome undeploying between h => ?_))
  cases outcome with
  | error fault => exact ⟨h, by simp⟩
  | ok _ =>
      refine yields_bind ((hdelete between).mono ?_)
      intro outcome deleting cleared hcleared
      cases outcome with
      | error fault => exact ⟨h.append hcleared, by simp⟩
      | ok _ =>
          refine (closeSessions_trails mainThread cleared).mono ?_
          rintro _ closing after ⟨rfl, hclosed, hempty⟩
          exact ⟨h.append (hcleared.append hclosed), fun _ => hempty⟩

end Act

/-! ### Runs -/

/-- What a prober is asked for. To stop one instance is to stop it as the only one of all. -/
inductive ProberCall
  | probe (pid : Nat) (baseUrl : String)
  | stop (targets : List (Nat × String)) (timeout : Rat)
  | close

def ProberCall.act [Machine σ] (thread : String) : ProberCall → Act σ Unit
  | .probe pid baseUrl => do let _ ← Act.probe thread pid baseUrl
  | .stop targets timeout => do let _ ← Act.stopAll thread targets timeout
  | .close => Act.closeSessions

inductive Probed [Machine σ] (thread : String) (start : World σ) : World σ → Prop
  | start : Probed thread start start
  | call {world : World σ} (call : ProberCall) (hrun : Probed thread start world) :
      Probed thread start ((call.act thread).perform world).2
  | pass {world : World σ} (machine : σ) (hrun : Probed thread start world) :
      Probed thread start { world with machine }

variable [Machine σ] {thread : String} {start world : World σ}

theorem ProberCall.act_trails (call : ProberCall) :
    (call.act thread : Act σ Unit).Follows fun _ => Trails thread := by
  cases call with
  | probe pid baseUrl => exact (Act.probe_stops pid baseUrl).bind fun _ => Act.follows_pure ()
  | stop targets timeout =>
      exact (Act.stopAll_stops targets timeout).bind fun _ => Act.follows_pure ()
  | close => exact fun world => (Act.closeSessions_trails thread world).mono fun _ _ _ h => h.2.1

theorem Probed.trails (hrun : Probed thread start world) :
    ∃ done, world.journal = done.reverse ++ start.journal ∧ Trails thread start done world := by
  induction hrun with
  | start => exact ⟨[], rfl, trails_of_prober_eq rfl rfl⟩
  | @call world call _ ih =>
      obtain ⟨done, hjournal, htrails⟩ := ih
      obtain ⟨more, hmore, htrails'⟩ := call.act_trails world
      exact ⟨done ++ more, by simp [hmore, hjournal], htrails.append htrails'⟩
  | pass machine _ ih =>
      obtain ⟨done, hjournal, htrails⟩ := ih
      exact ⟨done, hjournal, htrails⟩

theorem OperatedFreely.trails {deployer : Deployer} (hrun : OperatedFreely deployer start world) :
    ∃ done, world.journal = done.reverse ++ start.journal ∧
      Trails mainThread start done world := by
  refine hrun.follows fun operation _ => ?_
  refine Act.operation_follows ?_ deployer operation
    (fun request? _ => Act.deploy_trails deployer request?) fun _ world => ?_
  · exact fun _ _ => Act.yields_modify rfl (trails_of_prober_eq rfl rfl)
  · exact (Act.shutdown_trails deployer world).mono fun _ _ _ h => h.1

/-! ### Requests behind a close -/

omit [Machine σ] in
theorem Trails.sentOpen_iff {done : List Event} (h : Trails thread start done world)
    (hstart : Slot.idle.IsIn thread start.prober) :
    SentOpen (sessionsIn done) ↔ sendsLate (sessionsIn done) = false := by
  obtain ⟨slot, -, htrail⟩ := h .idle hstart
  exact htrail.sentOpen_iff

omit [Machine σ] in
/-- Where nothing is left to close, the slot is not live. -/
theorem Trails.leftClosed_iff {done : List Event} (h : Trails thread start done world)
    (hstart : Slot.idle.IsIn thread start.prober) (hclosed : world.prober.toClose = []) :
    LeftClosed (sessionsIn done) ↔ sendsLate (sessionsIn done) = false := by
  obtain ⟨slot, hslot, htrail⟩ := h .idle hstart
  refine htrail.leftClosed_iff fun session hlive => ?_
  subst hlive
  simp [hslot.2.2] at hclosed

/-- A prober that has sent no request yet, without a shared session, sends all its requests through
open sessions exactly as long as it sends none behind the closing of one, whatever else it is asked
for. When its sessions are closed, none that was used is left open exactly under the same condition.
The prober of a deployer behaves in the same way, where a shutdown that succeeds closes the
sessions. -/
theorem sent_open_iff_never_late {start : World σ}
    (hfresh : ∀ thread, Slot.idle.IsIn thread start.prober) :
    (∀ thread world, Probed thread start world → ∃ done,
      world.journal = done.reverse ++ start.journal ∧
      (SentOpen (sessionsIn done) ↔ sendsLate (sessionsIn done) = false) ∧
      Act.closeSessions.Yields world fun outcome closing _ => outcome = .ok () ∧
        (LeftClosed (sessionsIn (done ++ closing)) ↔
          sendsLate (sessionsIn (done ++ closing)) = false)) ∧
    ∀ deployer world, OperatedFreely deployer start world → ∃ done,
      world.journal = done.reverse ++ start.journal ∧
      (SentOpen (sessionsIn done) ↔ sendsLate (sessionsIn done) = false) ∧
      (Act.shutdown deployer).Yields world fun outcome closing _ => outcome = .ok () →
        (LeftClosed (sessionsIn (done ++ closing)) ↔
          sendsLate (sessionsIn (done ++ closing)) = false) := by
  constructor
  · intro thread world hrun
    obtain ⟨done, hjournal, htrails⟩ := hrun.trails
    refine ⟨done, hjournal, htrails.sentOpen_iff (hfresh thread), ?_⟩
    refine (Act.closeSessions_trails thread world).mono ?_
    rintro outcome closing after ⟨hok, hclosing, hclosed⟩
    exact ⟨hok, (htrails.append hclosing).leftClosed_iff (hfresh thread) hclosed⟩
  · intro deployer world hrun
    obtain ⟨done, hjournal, htrails⟩ := hrun.trails
    refine ⟨done, hjournal, htrails.sentOpen_iff (hfresh mainThread), ?_⟩
    refine (Act.shutdown_trails deployer world).mono ?_
    rintro outcome closing after ⟨hclosing, hclosed⟩ hok
    exact (htrails.append hclosing).leftClosed_iff (hfresh mainThread) (hclosed hok)

/-! ### A prober that is used again -/

open Rehearsal

def Shelf.afterProbes : Nat → World Shelf
  | 0 => { machine := {} }
  | times + 1 =>
      let probed := (((ProberCall.probe 0 "http://h").act mainThread).perform
        (Shelf.afterProbes times)).2
      ((ProberCall.close.act mainThread).perform probed).2

def Shelf.afterShutdowns : Nat → World Shelf
  | 0 => { machine := {} }
  | times + 1 => [Operation.deploy (some greenApp), .status "default.app", .shutdown].foldl
      (fun world operation => ((operation.act swiftDeployer).perform world).2)
      (Shelf.afterShutdowns times)

theorem Shelf.probed_afterProbes (times : Nat) :
    Probed mainThread { machine := ({} : Shelf) } (Shelf.afterProbes times) := by
  induction times with
  | zero => exact .start
  | succ times ih => exact .call _ (.call _ ih)

theorem Shelf.operated_afterShutdowns (times : Nat) :
    OperatedFreely swiftDeployer { machine := ({} : Shelf) } (Shelf.afterShutdowns times) := by
  induction times with
  | zero => exact .start
  | succ times ih => exact .call _ trivial (.call _ trivial (.call _ trivial ih))

theorem sent_open_iff_never_late_shelf :
    (∀ thread, Slot.idle.IsIn thread ({ machine := {} } : World Shelf).prober) ∧
      (∃ done, (Shelf.afterProbes 1).journal = done.reverse ∧ SentOpen (sessionsIn done)) ∧
      ∃ done, (Shelf.afterShutdowns 1).journal = done.reverse ∧ SentOpen (sessionsIn done) := by
  have hfresh (thread : String) :
      Slot.idle.IsIn thread ({ machine := {} } : World Shelf).prober := ⟨rfl, rfl, rfl⟩
  obtain ⟨hprobes, hshutdowns⟩ := sent_open_iff_never_late hfresh
  refine ⟨hfresh, ?_, ?_⟩
  · obtain ⟨done, hjournal, hsent, -⟩ := hprobes mainThread _ (Shelf.probed_afterProbes 1)
    have hdone : done = (Shelf.afterProbes 1).journal.reverse := by simp [hjournal]
    refine ⟨done, by simpa using hjournal, hsent.mpr ?_⟩
    rw [hdone]
    decide +kernel
  · obtain ⟨done, hjournal, hsent, -⟩ := hshutdowns _ _ (Shelf.operated_afterShutdowns 1)
    have hdone : done = (Shelf.afterShutdowns 1).journal.reverse := by simp [hjournal]
    refine ⟨done, by simpa using hjournal, hsent.mpr ?_⟩
    rw [hdone]
    decide +kernel

/-- The second time, the request goes through the session that was closed, and no close is behind
it. -/
theorem reused_prober_sends_through_closed_session :
    (Probed mainThread { machine := ({} : Shelf) } (Shelf.afterProbes 2) ∧
      ¬SentOpen (sessionsIn (Shelf.afterProbes 2).journal.reverse) ∧
      ¬LeftClosed (sessionsIn (Shelf.afterProbes 2).journal.reverse)) ∧
    OperatedFreely swiftDeployer { machine := ({} : Shelf) } (Shelf.afterShutdowns 2) ∧
      ¬SentOpen (sessionsIn (Shelf.afterShutdowns 2).journal.reverse) ∧
      ¬LeftClosed (sessionsIn (Shelf.afterShutdowns 2).journal.reverse) := by
  have hprobes : sessionsIn (Shelf.afterProbes 2).journal.reverse =
      [.opened 1, .used 1, .closed 1] ++ [.used 1] := by
    decide +kernel
  have hshutdowns : sessionsIn (Shelf.afterShutdowns 2).journal.reverse =
      [.opened 1, .used 1, .closed 1, .used 1] ++ [.used 1] := by
    decide +kernel
  rw [hprobes, hshutdowns]
  exact ⟨⟨Shelf.probed_afterProbes 2, not_sentOpen_concat_used (by simp),
    not_leftClosed_concat_used⟩, Shelf.operated_afterShutdowns 2,
    not_sentOpen_concat_used (by simp), not_leftClosed_concat_used⟩

end AppSupervisor
