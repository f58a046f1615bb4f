import AppSupervisor.Health
import AppSupervisor.Proofs.Journal
import AppSupervisor.Proofs.Yields

/-!
What an action asks of the machine, call by call.

The journal tells which calls were made, but not in which state the machine was when they were. That
state follows from the one at the start and the calls in between, since each call changes it in its
own way. So a description of an action by its calls can speak of the time at which a request was
posted, and of what a process answered just before a wait.
-/

namespace AppSupervisor

variable {σ α β : Type}

inductive Call
  | asked (pid : Nat)
  | posted (page : String) (timeout : Rat)
  | slept (seconds : Rat)
  | killed (pid : Nat)

def Call.isNoted : Call → Bool
  | .asked _ => false
  | _ => true

def Call.isTimed : Call → Bool
  | .posted _ _ | .slept _ => true
  | _ => false

def Call.isSleep : Call → Bool
  | .slept _ => true
  | _ => false

@[simp]
def Event.call? : Event → Option Call
  | .posted _ page timeout => some (.posted page timeout)
  | .slept seconds => some (.slept seconds)
  | .killed pid => some (.killed pid)
  | _ => none

abbrev callsIn (done : List Event) : List Call := picked Event.call? done

def Event.isMishap : Event → Bool
  | .lost _ | .raised _ => true
  | _ => false

theorem callsIn_of_mishaps {done : List Event} (h : ∀ event ∈ done, event.isMishap) :
    callsIn done = [] := by
  refine picked_eq_nil_iff.mpr fun event hmem => ?_
  have := h event hmem
  cases event <;> simp_all [Event.isMishap]

def Call.step [Machine σ] (machine : σ) : Call → σ
  | .asked pid => (Machine.exitCode pid machine).2
  | .posted page timeout => (Machine.httpPost page timeout machine).2
  | .slept seconds => (Machine.sleep seconds machine).2
  | .killed pid => Machine.kill pid machine

/-- The state of a machine behind some calls, the first one made in the state at the start. -/
def behind [Machine σ] (start : σ) (calls : List Call) : σ :=
  calls.foldl Call.step start

@[simp]
theorem behind_nil [Machine σ] (start : σ) : behind start [] = start := rfl

@[simp]
theorem behind_append [Machine σ] (start : σ) (past calls : List Call) :
    behind start (past ++ calls) = behind (behind start past) calls :=
  List.foldl_append

@[simp]
theorem behind_cons [Machine σ] (start : σ) (call : Call) (calls : List Call) :
    behind start (call :: calls) = behind (call.step start) calls := rfl

def Throughout (P : List Call → Call → Prop) (history : List Call) : Prop :=
  ∀ before call rest, history = before ++ call :: rest → P before call

section Throughout

variable {P : List Call → Call → Prop} {history : List Call} {call : Call}

theorem throughout_nil : Throughout P [] := by
  intro before call rest hsplit
  simp at hsplit

theorem throughout_concat :
    Throughout P (history ++ [call]) ↔ Throughout P history ∧ P history call := by
  constructor
  · intro h
    refine ⟨fun before other rest hsplit => ?_, h history call [] rfl⟩
    exact h before other (rest ++ [call]) (by simp [hsplit])
  · rintro ⟨hhistory, hcall⟩ before other rest hsplit
    rcases List.eq_nil_or_concat rest with rfl | ⟨rest, last, rfl⟩
    · obtain ⟨rfl, heq⟩ := List.append_inj' hsplit rfl
      cases heq
      exact hcall
    · have hsplit' : history ++ [call] = (before ++ other :: rest) ++ [last] := by
        simpa using hsplit
      exact hhistory before other rest (List.append_inj' hsplit' rfl).1

end Throughout

namespace Act

/-- Done behind some calls on a machine, an action makes further calls, and its outcome and the
whole history of calls have a property. -/
def Makes [Machine σ] (act : Act σ α) (start : σ) (past : List Call)
    (post : Except Fault α → List Call → Prop) : Prop :=
  ∀ world : World σ, world.machine = behind start past →
    act.Yields world fun outcome done after => ∃ calls,
      after.machine = behind start (past ++ calls) ∧
        callsIn done = calls.filter Call.isNoted ∧ post outcome (past ++ calls)

/-- What others forgot in the meantime leaves the registry, and the machine does not see it. -/
theorem request_yields (op : σ → HttpOutcome × σ) (world : World σ) :
    (request op).Yields world fun outcome done after => outcome = (op world.machine).1.result ∧
      after.machine = (op world.machine).2 ∧ ∀ event ∈ done, event.isMishap := by
  have hlose : ∀ (ids : List String) (world : World σ),
      (ids.forM lose : Act σ Unit).Yields world fun outcome done after =>
        outcome = .ok () ∧ after.machine = world.machine ∧ ∀ event ∈ done, event.isMishap := by
    intro ids
    induction ids with
    | nil => exact fun _ => yields_pure ⟨rfl, rfl, by simp⟩
    | cons id rest ih =>
        refine fun world => yields_bind (yields_bind (yields_modify rfl (yields_note ?_)))
        refine (ih _).mono ?_
        rintro outcome done after ⟨hok, hmachine, hdone⟩
        exact ⟨hok, hmachine, by simpa [Event.isMishap] using hdone⟩
  refine yields_bind_onMachine (yields_bind ((hlose _ _).mono ?_))
  rintro _ done between ⟨rfl, hmachine, hdone⟩
  refine yields_ofExcept (fun status hstatus => ?_) fun fault hfault => ?_
  · exact ⟨hstatus.symm, hmachine, by simpa using hdone⟩
  · refine ⟨hfault.symm, hmachine, List.forall_mem_append.mpr ⟨hdone, by simp [Event.isMishap]⟩⟩

section Rules

variable [Machine σ] {act : Act σ α} {start : σ} {past : List Call}
  {post other : Except Fault α → List Call → Prop}

theorem Makes.mono (h : act.Makes start past post)
    (himp : ∀ outcome history, post outcome history → other outcome history) :
    act.Makes start past other := by
  intro world hworld
  refine (h world hworld).mono ?_
  rintro outcome done after ⟨calls, hafter, hdone, hpost⟩
  exact ⟨calls, hafter, hdone, himp outcome _ hpost⟩

/-- What an action does from a state on, it does behind the calls that lead to this state. -/
theorem Makes.after (h : act.Makes (behind start past) [] post) :
    act.Makes start past fun outcome history => ∃ calls,
      history = past ++ calls ∧ post outcome calls := by
  intro world hworld
  refine (h world (by simpa using hworld)).mono ?_
  rintro outcome done after ⟨calls, hafter, hdone, hpost⟩
  exact ⟨calls, by simpa using hafter, hdone, calls, rfl, hpost⟩

/-- An action that leaves the machine alone and notes no call. -/
theorem makes_of_still
    (h : ∀ world : World σ, world.machine = behind start past →
      act.Yields world fun outcome done after =>
        after.machine = world.machine ∧ callsIn done = [] ∧ post outcome past) :
    act.Makes start past post := by
  intro world hworld
  refine (h world hworld).mono ?_
  rintro outcome done after ⟨hafter, hdone, hpost⟩
  exact ⟨[], by simpa using hafter.trans hworld, by simpa using hdone, by simpa using hpost⟩

theorem makes_pure {a : α} (h : post (.ok a) past) : (pure a : Act σ α).Makes start past post :=
  makes_of_still fun _ _ => yields_pure ⟨rfl, rfl, h⟩

theorem makes_get {post : Except Fault (World σ) → List Call → Prop}
    (h : ∀ world : World σ, world.machine = behind start past → post (.ok world) past) :
    (get : Act σ (World σ)).Makes start past post :=
  makes_of_still fun world hworld => yields_get ⟨rfl, rfl, h world hworld⟩

theorem makes_note {event : Event} {post : Except Fault Unit → List Call → Prop}
    (hevent : callsIn [event] = []) (h : post (.ok ()) past) :
    (note event : Act σ Unit).Makes start past post :=
  makes_of_still fun _ _ => yields_note ⟨rfl, hevent, h⟩

theorem makes_log {post : Except Fault Unit → List Call → Prop} (level : LogLevel)
    (message : String) (h : post (.ok ()) past) :
    (log level message : Act σ Unit).Makes start past post :=
  makes_note rfl h

theorem makes_throw {fault : Fault} (h : post (.error fault) past) :
    (throw fault : Act σ α).Makes start past post :=
  makes_of_still fun _ _ => yields_throw ⟨rfl, rfl, h⟩

theorem makes_ofExcept {outcome : Except Fault α} (h : post outcome past) :
    (ofExcept outcome : Act σ α).Makes start past post := by
  refine makes_of_still fun _ _ => yields_ofExcept (fun a ha => ?_) fun fault hfault => ?_
  · exact ⟨rfl, rfl, ha ▸ h⟩
  · exact ⟨rfl, rfl, hfault ▸ h⟩

theorem makes_askMachine {question : σ → α} (h : post (.ok (question (behind start past))) past) :
    (askMachine question).Makes start past post :=
  makes_of_still fun _ hworld => yields_bind_get (yields_pure ⟨rfl, rfl, hworld ▸ h⟩)

/-- What follows makes its calls behind the history that the first action left. -/
theorem makes_bind {next : α → Act σ β} {post : Except Fault β → List Call → Prop}
    (h : act.Makes start past fun outcome history => match outcome with
      | .ok a => (next a).Makes start history post
      | .error fault => post (.error fault) history) : (act >>= next).Makes start past post := by
  intro world hworld
  refine yields_bind ((h world hworld).mono ?_)
  rintro outcome done between ⟨calls, hbetween, hdone, hpost⟩
  cases outcome with
  | error fault => exact ⟨calls, hbetween, hdone, hpost⟩
  | ok a =>
      refine (hpost between hbetween).mono ?_
      rintro outcome more after ⟨further, hafter, hmore, hpost⟩
      refine ⟨calls ++ further, ?_, ?_, ?_⟩
      · simpa using hafter
      · simp [hdone, hmore]
      · simpa using hpost

theorem makes_ensuring {cleanup : Act σ β} {post : Except Fault (α × β) → List Call → Prop}
    (h : act.Makes start past fun outcome history =>
      cleanup.Makes start history fun result later =>
        post (result.bind fun b => outcome.map (·, b)) later) :
    (ensuring act cleanup).Makes start past post := by
  intro world hworld
  refine yields_ensuring ((h world hworld).mono ?_)
  rintro outcome done between ⟨calls, hbetween, hdone, hpost⟩
  refine (hpost between hbetween).mono ?_
  rintro result more after ⟨further, hafter, hmore, hpost⟩
  refine ⟨calls ++ further, ?_, ?_, ?_⟩
  · simpa using hafter
  · simp [hdone, hmore]
  · simpa using hpost

/-! ### Calls -/

theorem kill_makes {post : Except Fault Unit → List Call → Prop} (pid : Nat)
    (h : post (.ok ()) (past ++ [.killed pid])) :
    (kill pid : Act σ Unit).Makes start past post := by
  intro world hworld
  refine yields_bind_note (yields_onMachine ⟨[.killed pid], ?_, rfl, h⟩)
  simp [hworld, Call.step]

/-- A process is alive if the machine knows no exit code of it. -/
theorem isAlive_makes {post : Except Fault Bool → List Call → Prop} (pid : Nat)
    (h : post ((Machine.exitCode pid (behind start past)).1.map (·.isNone))
      (past ++ [.asked pid])) :
    (isAlive pid : Act σ Bool).Makes start past post := by
  intro world hworld
  rw [← hworld] at h
  have hmachine : (Machine.exitCode pid world.machine).2 =
      behind start (past ++ [.asked pid]) := by
    simp [hworld, Call.step]
  refine yields_bind (yields_bind (yields_bind (yields_onMachine (yields_ofExcept ?_ ?_))))
  · intro code? hcode
    rw [hcode] at h
    have hdone : ∃ calls, behind start (past ++ [.asked pid]) = behind start (past ++ calls) ∧
        ([] : List Call) = calls.filter Call.isNoted ∧ post (.ok code?.isNone) (past ++ calls) :=
      ⟨[.asked pid], rfl, rfl, h⟩
    rw [← hmachine] at hdone
    cases code? with
    | some code => exact yields_bind_note (yields_pure (yields_pure hdone))
    | none => exact yields_bind (yields_pure (yields_pure (yields_pure hdone)))
  · intro fault hfault
    rw [hfault] at h
    exact ⟨[.asked pid], hmachine, rfl, h⟩

theorem sleep_makes {post : Except Fault Unit → List Call → Prop} (seconds : Rat)
    (h : post (Machine.sleep seconds (behind start past)).1 (past ++ [.slept seconds])) :
    (sleep seconds : Act σ Unit).Makes start past post := by
  intro world hworld
  rw [← hworld] at h
  have hmachine : (Machine.sleep seconds world.machine).2 =
      behind start (past ++ [.slept seconds]) := by
    simp [hworld, Call.step]
  refine yields_bind_note (yields_bind (yields_onMachine (yields_ofExcept ?_ ?_)))
  · intro _ hok
    exact ⟨[.slept seconds], hmachine, rfl, hok ▸ h⟩
  · intro fault hfault
    exact ⟨[.slept seconds], hmachine, rfl, hfault ▸ h⟩

/-- A request that is noted when it is posted, and what follows its answer. -/
theorem makes_bind_post {next : Except Fault Int → Act σ β}
    {post : Except Fault β → List Call → Prop} (session : Nat) (page : String) (timeout : Rat)
    (h : (next (Machine.httpPost page timeout (behind start past)).1.result).Makes start
      (past ++ [.posted page timeout]) post) :
    (note (.posted session page timeout) >>= fun _ =>
      attempt (request (Machine.httpPost page timeout)) >>= next).Makes start past post := by
  have hposted : (note (.posted session page timeout) >>= fun _ =>
      attempt (request (Machine.httpPost page timeout)) : Act σ _).Makes start past
        fun outcome history =>
          outcome = .ok (Machine.httpPost page timeout (behind start past)).1.result ∧
            history = past ++ [.posted page timeout] := by
    intro world hworld
    refine yields_bind_note (yields_attempt ((request_yields _ _).mono ?_))
    rintro outcome done after ⟨rfl, hafter, hmishaps⟩
    have hdone := callsIn_of_mishaps hmishaps
    simp only [hworld] at hafter ⊢
    refine ⟨[.posted page timeout], ?_, ?_, by simp, rfl⟩
    · simpa [Call.step] using hafter
    · change _ = [Call.posted page timeout]
      simp [hdone]
  rw [← bind_assoc]
  refine makes_bind (hposted.mono ?_)
  rintro outcome history ⟨rfl, rfl⟩
  exact h

theorem sessionOf_makes {post : Except Fault Nat → List Call → Prop} (thread : String)
    (h : ∀ session, post (.ok session) past) :
    (sessionOf thread : Act σ Nat).Makes start past post := by
  refine makes_of_still fun world _ => yields_bind_get ?_
  split
  · exact yields_pure ⟨rfl, rfl, h _⟩
  · exact yields_bind (yields_set rfl (yields_bind_note (yields_pure ⟨rfl, rfl, h _⟩)))

end Rules

end Act

end AppSupervisor
