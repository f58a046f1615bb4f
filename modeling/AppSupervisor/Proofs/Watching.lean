import AppSupervisor.Proofs.Recording

/-!
The loops in which a run looks at its deployment.

A run first waits until its deployment has started, and then it may supervise it. Both loops
alternate looks and pauses, and both are followed by an induction on the looks that are left. A
fault is the outcome of the last turn; an interrupt ends a wait like any other fault, but a
supervision for good.
-/

namespace AppSupervisor

open AppSupervisor.CommandLine

variable {σ α : Type}

/-! ### Turns -/

def faultOf? : Except Fault α → Option Fault
  | .error fault => some fault
  | .ok _ => none

def Turn.fault? : Turn → Option Fault
  | .deploy _ outcome _ => faultOf? outcome
  | .status _ outcome _ => faultOf? outcome
  | .pause _ outcome => faultOf? outcome
  | .undeploy _ outcome => faultOf? outcome
  | .shutdown outcome => faultOf? outcome

def Turn.isWatch : Turn → Bool
  | .status _ _ _ | .pause _ _ => true
  | _ => false

def Turn.isShutdown : Turn → Bool
  | .shutdown _ => true
  | _ => false

theorem isShutdown_of_isWatch {turn : Turn} (h : turn.isWatch) : turn.isShutdown = false := by
  cases turn with
  | shutdown _ => contradiction
  | _ => rfl

inductive Waited (id : String) (isEarly : Rat → Bool) : List Turn → AppStatus → Prop
  | last {status : AppStatus} {moment : Rat}
      (hlast : ¬(status.state = .deploying ∧ isEarly moment)) :
      Waited id isEarly [.status id (.ok status) moment] status
  | more {status final : AppStatus} {moment : Rat} {turns : List Turn}
      (hstate : status.state = .deploying) (hearly : isEarly moment)
      (hrest : Waited id isEarly turns final) :
      Waited id isEarly (.status id (.ok status) moment :: .pause pollInterval (.ok ()) :: turns)
        final

inductive Supervised (id : String) : List Turn → Option AppStatus → Prop
  | pausing : Supervised id [.pause pollInterval (.error .interrupted)] none
  | looking (moment : Rat) : Supervised id
      [.pause pollInterval (.ok ()), .status id (.error .interrupted) moment] none
  | ended {status : AppStatus} {moment : Rat} (hstate : status.state.isTerminal) :
      Supervised id [.pause pollInterval (.ok ()), .status id (.ok status) moment] (some status)
  | more {status : AppStatus} {final? : Option AppStatus} {moment : Rat} {turns : List Turn}
      (hstate : ¬status.state.isTerminal) (hrest : Supervised id turns final?) :
      Supervised id (.pause pollInterval (.ok ()) :: .status id (.ok status) moment :: turns) final?

/-! ### Ends -/

/-- The last turn gave a fault and stands where such a turn may, or the horizon was reached. -/
def Breaks (fault : Fault) (may : List Turn → Turn → Prop) (turns : List Turn) : Prop :=
  fault = .horizonReached ∨
    ∃ before turn, turns = before ++ [turn] ∧ turn.fault? = some fault ∧ may before turn

theorem breaks_concat {fault : Fault} {may : List Turn → Turn → Prop} (before : List Turn)
    {turn : Turn} (hfault : turn.fault? = some fault) (hmay : may before turn) :
    Breaks fault may (before ++ [turn]) :=
  Or.inr ⟨before, turn, rfl, hfault, hmay⟩

theorem Breaks.prepend {fault : Fault} {may might : List Turn → Turn → Prop} {turns : List Turn}
    (h : Breaks fault may turns) (front : List Turn)
    (himp : ∀ before turn, may before turn → might (front ++ before) turn) :
    Breaks fault might (front ++ turns) := by
  rcases h with hhorizon | ⟨before, turn, rfl, hfault, hmay⟩
  · exact Or.inl hhorizon
  · rw [← List.append_assoc]
    exact breaks_concat _ hfault (himp before turn hmay)

def IsWaiting (id : String) (isEarly : Rat → Bool) (turns : List Turn) : Prop :=
  ∀ waits status rest, turns = waits ++ rest → ¬Waited id isEarly waits status

def WaitEnds (id : String) (isEarly : Rat → Bool) : Except Fault AppStatus → List Turn → Prop
  | .ok final, turns => Waited id isEarly turns final
  | .error fault, turns => Breaks fault (fun before _ => IsWaiting id isEarly before) turns

/-- How a supervision ends. -/
def SupervisionEnds (id : String) : Except Fault (Option AppStatus) → List Turn → Prop
  | .ok final?, turns => Supervised id turns final?
  | .error fault, turns => Breaks fault (fun _ _ => fault ≠ .interrupted) turns

def spared : Except Fault AppStatus → Except Fault (Option AppStatus)
  | .ok status => .ok (some status)
  | .error .interrupted => .ok none
  | .error fault => .error fault

section Wait

variable {id : String} {isEarly : Rat → Bool} {status : AppStatus} {moment : Rat}

theorem isWaiting_nil : IsWaiting id isEarly [] := by
  intro waits status rest hsplit hwaited
  obtain ⟨rfl, -⟩ := List.append_eq_nil_iff.mp hsplit.symm
  cases hwaited

theorem isWaiting_cons (hstate : status.state = .deploying) (hearly : isEarly moment)
    {turns : List Turn} (h : ∀ rest, turns = .pause pollInterval (.ok ()) :: rest →
      IsWaiting id isEarly rest) :
    IsWaiting id isEarly (.status id (.ok status) moment :: turns) := by
  intro waits final rest hsplit hwaited
  cases hwaited with
  | last hlast =>
      cases hsplit
      exact hlast ⟨hstate, hearly⟩
  | more _ _ hrest =>
      obtain ⟨-, hturns⟩ := List.cons_eq_cons.mp hsplit
      exact h _ hturns _ _ _ rfl hrest

theorem waitEnds_error {fault : Fault} (before : List Turn) {turn : Turn}
    (hfault : turn.fault? = some fault) (hwaiting : IsWaiting id isEarly before) :
    WaitEnds id isEarly (.error fault) (before ++ [turn]) :=
  breaks_concat before hfault hwaiting

theorem WaitEnds.cons (hstate : status.state = .deploying) (hearly : isEarly moment)
    {outcome : Except Fault AppStatus} {turns : List Turn} (h : WaitEnds id isEarly outcome turns) :
    WaitEnds id isEarly outcome
      (.status id (.ok status) moment :: .pause pollInterval (.ok ()) :: turns) := by
  cases outcome with
  | ok final => exact Waited.more hstate hearly h
  | error fault =>
      refine Breaks.prepend h [_, _] fun before turn hbefore => isWaiting_cons hstate hearly ?_
      rintro rest ⟨⟩
      exact hbefore

end Wait

section Supervision

variable {id : String} {status : AppStatus} {moment : Rat}

theorem spared_of_ne {fault : Fault} (h : fault ≠ .interrupted) :
    spared (.error fault) = .error fault := by
  cases fault with
  | interrupted => contradiction
  | _ => rfl

theorem supervisionEnds_error {fault : Fault} (before : List Turn) {turn : Turn}
    (hfault : turn.fault? = some fault)
    (hinterrupted : fault = .interrupted → Supervised id (before ++ [turn]) none) :
    SupervisionEnds id (spared (.error fault)) (before ++ [turn]) := by
  by_cases h : fault = .interrupted
  · rw [h]
    exact hinterrupted h
  · rw [spared_of_ne h]
    exact breaks_concat before hfault h

theorem SupervisionEnds.cons (hstate : ¬status.state.isTerminal)
    {outcome : Except Fault (Option AppStatus)} {turns : List Turn}
    (h : SupervisionEnds id outcome turns) : SupervisionEnds id outcome
      (.pause pollInterval (.ok ()) :: .status id (.ok status) moment :: turns) := by
  cases outcome with
  | ok final? => exact Supervised.more hstate h
  | error fault => exact Breaks.prepend h [_, _] fun _ _ hother => hother

end Supervision

/-! ### Loops

Each loop is followed by an induction on its looks. A round has two turns, and each of them may give
a fault; what the rounds behind it show is then put behind these two turns. -/

namespace Act

variable [Machine σ] (handle : DeployerHandle σ)

/-- The turns of a wait, together with the look in front of them. -/
theorem waitLonger_records (id : String) (isEarly : Rat → Bool) (status : AppStatus) (looks : Nat)
    (world : World σ) :
    Records (waitLonger handle.recorded id isEarly status looks)
      (waitLonger handle id isEarly status looks) world fun outcome turns _ =>
        WaitEnds id isEarly outcome
          (.status id (.ok status) (Machine.now world.machine) :: turns) := by
  -- The look in front is told by `status`, so its turn stands before what the loop records.
  induction looks generalizing status world with
  | zero => exact (mirrors_raise _).records (Or.inl rfl)
  | succ looks ih =>
      refine (mirrors_askMachine Machine.now).bind_records ?_ (by rintro _ _ ⟨⟩)
      rintro moment between ⟨⟩
      refine records_ite (fun hwaits => ?_) fun hwaits => ?_
      · obtain ⟨hstate, hearly⟩ : status.state = .deploying ∧ isEarly (Machine.now world.machine) :=
          by simpa using hwaits
        refine records_bind (records_sleep fun outcome after => ?_)
        cases outcome with
        | error fault =>
            refine waitEnds_error [_] rfl (isWaiting_cons hstate hearly ?_)
            rintro _ ⟨⟩
        | ok _ =>
            refine records_bind (records_status handle id fun outcome next => ?_)
            cases outcome with
            | error fault =>
                refine waitEnds_error [_, _] rfl (isWaiting_cons hstate hearly ?_)
                rintro _ ⟨⟩
                exact isWaiting_nil
            | ok found =>
                refine (ih found next).mono fun outcome turns _ hends => ?_
                exact hends.cons hstate hearly
      · exact records_pure (Waited.last (by simpa using hwaits))

/-- A supervision looks and pauses in turn until it ends. -/
theorem watch_records (id : String) (last : State) (looks : Nat) (world : World σ) :
    Records (watch handle.recorded id last looks) (watch handle id last looks) world
      fun outcome turns _ => SupervisionEnds id (spared outcome) turns := by
  induction looks generalizing last world with
  | zero => exact (mirrors_raise _).records (Or.inl rfl)
  | succ looks ih =>
      refine records_bind (records_sleep fun outcome after => ?_)
      cases outcome with
      | error fault =>
          refine supervisionEnds_error [] rfl ?_
          rintro rfl
          exact .pausing
      | ok _ =>
          refine records_bind (records_status handle id fun outcome next => ?_)
          cases outcome with
          | error fault =>
              refine supervisionEnds_error [_] rfl ?_
              rintro rfl
              exact .looking _
          | ok status =>
              have hrest (world : World σ) : Records
                  (if status.state.isTerminal then pure status
                    else watch handle.recorded id status.state looks)
                  (if status.state.isTerminal then pure status
                    else watch handle id status.state looks) world fun outcome turns _ =>
                  SupervisionEnds id (spared outcome) (.pause pollInterval (.ok ()) ::
                    .status id (.ok status) (Machine.now next.machine) :: turns) := by
                refine records_ite (fun hstate => ?_) fun hstate => ?_
                · exact records_pure (Supervised.ended hstate)
                · exact (ih _ world).mono fun outcome turns _ hends => hends.cons hstate
              refine records_ite (fun _ => ?_) fun _ => hrest next
              exact (mirrors_log _ _).bind_records (fun _ between _ => hrest between)
                (by rintro _ _ ⟨⟩)

theorem supervise_records (id : String) (last : State) (horizon : Nat) (world : World σ) :
    Records (supervise handle.recorded id last horizon) (supervise handle id last horizon) world
      fun outcome turns _ => SupervisionEnds id outcome turns := by
  refine records_bind_attempt ((watch_records handle id last horizon world).mono ?_)
  intro outcome turns between hends
  rw [← List.append_nil turns] at hends
  rcases outcome with fault | status
  · cases fault with
    | interrupted => exact records_pure hends
    | _ => exact records_throw hends
  · exact records_pure hends

theorem waitUntilStarted_records (id : String) (timeout : Float) (horizon : Nat)
    (world : World σ) :
    Records (waitUntilStarted handle.recorded id timeout horizon)
      (waitUntilStarted handle id timeout horizon) world fun outcome turns _ =>
        WaitEnds id (isBefore (Machine.now world.machine) (.ofFloat timeout)) outcome turns := by
  refine (mirrors_askMachine Machine.now).bind_records ?_ (by rintro _ _ ⟨⟩)
  rintro start between ⟨⟩
  refine records_bind (records_status handle id fun outcome next => ?_)
  cases outcome with
  | error fault => exact waitEnds_error [] rfl isWaiting_nil
  | ok status => exact waitLonger_records handle id _ status horizon next

/-! ### Kinds of turns

A loop asks for looks and pauses only. -/

section Kinds

variable {kind : Turn → Prop}

theorem waitLonger_speaks (hkind : ∀ turn : Turn, turn.isWatch → kind turn) (id : String)
    (isEarly : Rat → Bool) (status : AppStatus) (looks : Nat) :
    Speaks kind (waitLonger handle.recorded id isEarly status looks)
      (waitLonger handle id isEarly status looks) := by
  induction looks generalizing status with
  | zero => exact (mirrors_raise _).speaks
  | succ looks ih =>
      refine (mirrors_askMachine Machine.now).speaks.bind fun moment => Speaks.ite ?_ ?_
      · refine (speaks_sleep fun _ => hkind _ rfl).bind fun _ => ?_
        exact (speaks_status handle id fun _ _ => hkind _ rfl).bind fun found => ih found
      · exact (mirrors_pure _).speaks

theorem waitUntilStarted_speaks (hkind : ∀ turn : Turn, turn.isWatch → kind turn) (id : String)
    (timeout : Float) (horizon : Nat) :
    Speaks kind (waitUntilStarted handle.recorded id timeout horizon)
      (waitUntilStarted handle id timeout horizon) := by
  refine (mirrors_askMachine Machine.now).speaks.bind fun start => ?_
  refine (speaks_status handle id fun _ _ => hkind _ rfl).bind fun status => ?_
  exact waitLonger_speaks handle hkind id _ status horizon

theorem watch_speaks (hkind : ∀ turn : Turn, turn.isWatch → kind turn) (id : String) (last : State)
    (looks : Nat) :
    Speaks kind (watch handle.recorded id last looks) (watch handle id last looks) := by
  induction looks generalizing last with
  | zero => exact (mirrors_raise _).speaks
  | succ looks ih =>
      refine (speaks_sleep fun _ => hkind _ rfl).bind fun _ => ?_
      refine (speaks_status handle id fun _ _ => hkind _ rfl).bind fun status => ?_
      have hrest : Speaks kind
          (if status.state.isTerminal then pure status
            else watch handle.recorded id status.state looks)
          (if status.state.isTerminal then pure status
            else watch handle id status.state looks) :=
        (mirrors_pure status).speaks.ite (ih status.state)
      exact ((mirrors_log _ _).speaks.bind fun _ => hrest).ite hrest

theorem supervise_speaks (hkind : ∀ turn : Turn, turn.isWatch → kind turn) (id : String)
    (last : State) (horizon : Nat) :
    Speaks kind (supervise handle.recorded id last horizon) (supervise handle id last horizon) := by
  refine (watch_speaks handle hkind id last horizon).attempt.bind fun outcome => ?_
  rcases outcome with fault | status
  · cases fault with
    | interrupted => exact (mirrors_pure _).speaks
    | _ => exact (mirrors_throw _).speaks
  · exact (mirrors_pure _).speaks

end Kinds

end Act

end AppSupervisor
