import AppSupervisor.Proofs.StopBudget
import Mathlib.Data.List.DropRight

/-!
In which order instances are stopped.

First come the requests and the waits for those that agree, one request for an instance at most.
Then every instance is asked once more in order and killed if its process still runs. A request or a
wait that fails ends the first part, never the second, and its fault is that of the whole. Otherwise
the instances that were not killed are those that exited on their own.
-/

namespace AppSupervisor

variable {σ : Type}

/-! ### The page of a request -/

def IsStopPage (baseUrl page : String) : Prop :=
  ∃ bare slashes, baseUrl = bare ++ slashes ∧ (∀ c ∈ slashes.toList, c = '/') ∧
    bare.toList.getLast? ≠ some '/' ∧ page = bare ++ "/shutdown"

theorem isStopPage_stopPage (baseUrl : String) : IsStopPage baseUrl (stopPage baseUrl) := by
  refine ⟨String.ofList (baseUrl.toList.rdropWhile (· == '/')),
    String.ofList (baseUrl.toList.rtakeWhile (· == '/')), ?_, fun c hmem => ?_,
    fun hlast => ?_, rfl⟩
  · rw [← String.ofList_append, List.rdropWhile_append_rtakeWhile, String.ofList_toList]
  · rw [String.toList_ofList] at hmem
    simpa using List.mem_rtakeWhile_imp hmem
  · rw [String.toList_ofList] at hlast
    obtain ⟨front, hfront⟩ := List.getLast?_eq_some_iff.mp hlast
    have hne : baseUrl.toList.rdropWhile (· == '/') ≠ [] := by simp [hfront]
    have hslash := List.rdropWhile_last_not (· == '/') baseUrl.toList hne
    simp [hfront] at hslash

/-! ### The first part -/

def Requested (history : List Call) (pid : Nat) : Prop :=
  ∃ front page timeout, front ++ [.asked pid, .posted page timeout] <+: history

section Calls

variable [Machine σ]

/-- The fault by which a call breaks off what it is made for. A request may fail as the network
does. -/
def Call.failure? (machine : σ) : Call → Option Fault
  | .posted page timeout => match (Machine.httpPost page timeout machine).1.result with
    | .ok _ | .error (.http _ _) => none
    | .error fault => some fault
  | .slept seconds => match (Machine.sleep seconds machine).1 with
    | .ok _ => none
    | .error fault => some fault
  | .asked _ | .killed _ => none

variable (start : σ)

def Raised (history : List Call) (fault : Fault) : Prop :=
  ∃ before call, before ++ [call] <+: history ∧
    call.failure? (behind start before) = some fault

/-- What a call keeps to before anything is killed. A request is for the page of a target that was
found running just before, while some of the budget was left, and had no request yet. -/
def IsGraceful (targets : List (Nat × String)) (deadline : Rat) (before : List Call) : Call → Prop
  | .posted page timeout => ∃ target ∈ targets, ∃ earlier, before = earlier ++ [.asked target.1] ∧
      IsStopPage target.2 page ∧ (Machine.exitCode target.1 (behind start earlier)).1 = .ok none ∧
      timeout = deadline - Machine.now (behind start earlier) ∧ 0 < timeout ∧
      ¬Requested earlier target.1
  | .killed _ => False
  | .asked _ | .slept _ => True

structure Graceful (targets : List (Nat × String)) (deadline : Rat) (fault? : Option Fault)
    (history : List Call) : Prop where
  calls : Throughout (IsGraceful start targets deadline) history
  raised : ∀ fault, Raised start history fault ↔ fault? = some fault

end Calls

/-- The clock does not go back while processes are asked, and a wait that is not cut short takes the
time that it should. -/
structure KeepsTime (σ : Type) [Machine σ] : Prop where
  asked : ∀ (pid : Nat) (machine : σ),
    Machine.now machine ≤ Machine.now (Machine.exitCode pid machine).2
  slept : ∀ (seconds : Rat) (machine : σ), 0 < seconds →
    (Machine.sleep seconds machine).1 = .ok () →
    Machine.now machine + seconds ≤ Machine.now (Machine.sleep seconds machine).2

/-- How the first part ends. On a machine that does not keep time, a wait may be given up. -/
def GracefulEnd [Machine σ] {α : Type} (start : σ) (targets : List (Nat × String)) (deadline : Rat)
    (outcome : Except Fault α) (history : List Call) : Prop :=
  match outcome with
  | .ok _ => Graceful start targets deadline none history
  | .error fault => Graceful start targets deadline (some fault) history ∨
      fault = .horizonReached ∧ ¬KeepsTime σ ∧ Graceful start targets deadline none history

section Histories

variable {history front : List Call} {call : Call} {pid : Nat}

theorem requested_concat_iff : Requested (history ++ [call]) pid ↔ Requested history pid ∨
    ∃ front page timeout, history = front ++ [.asked pid] ∧ call = .posted page timeout := by
  constructor
  · rintro ⟨front, page, timeout, hprefix⟩
    rcases List.prefix_concat_iff.mp hprefix with heq | hprefix
    · rw [List.append_cons] at heq
      obtain ⟨rfl, hcall⟩ := List.append_inj' heq rfl
      exact Or.inr ⟨front, page, timeout, rfl, (List.singleton_inj.mp hcall).symm⟩
    · exact Or.inl ⟨front, page, timeout, hprefix⟩
  · rintro (⟨front, page, timeout, hprefix⟩ | ⟨front, page, timeout, rfl, rfl⟩)
    · exact ⟨front, page, timeout, hprefix.trans (List.prefix_append _ _)⟩
    · exact ⟨front, page, timeout, by simp⟩

theorem requested_ask_iff {other : Nat} :
    Requested (history ++ [.asked other]) pid ↔ Requested history pid := by
  rw [requested_concat_iff]
  simp

theorem requested_post_iff {other : Nat} {page : String} {timeout : Rat} :
    Requested (history ++ [.asked other] ++ [.posted page timeout]) pid ↔
      Requested history pid ∨ other = pid := by
  rw [requested_concat_iff, requested_ask_iff]
  refine or_congr_right ⟨?_, ?_⟩
  · rintro ⟨front, -, -, hsplit, -⟩
    simpa using (List.append_inj' hsplit rfl).2
  · rintro rfl
    exact ⟨history, page, timeout, rfl, rfl⟩

variable [Machine σ] {start : σ} {targets : List (Nat × String)} {deadline : Rat}
  {fault? : Option Fault}

theorem raised_concat_iff {fault : Fault} : Raised start (history ++ [call]) fault ↔
    Raised start history fault ∨ call.failure? (behind start history) = some fault := by
  constructor
  · rintro ⟨before, other, hprefix, hfails⟩
    rcases List.prefix_concat_iff.mp hprefix with heq | hprefix
    · obtain ⟨rfl, hcall⟩ := List.append_inj' heq rfl
      cases hcall
      exact Or.inr hfails
    · exact Or.inl ⟨before, other, hprefix, hfails⟩
  · rintro (⟨before, other, hprefix, hfails⟩ | hfails)
    · exact ⟨before, other, hprefix.trans (List.prefix_append _ _), hfails⟩
    · exact ⟨history, call, List.prefix_rfl, hfails⟩

theorem graceful_nil : Graceful start targets deadline none [] where
  calls := throughout_nil
  raised fault := by simp [Raised]

/-- As long as nothing was raised, a call may follow, and raises what it fails with. -/
theorem Graceful.concat (h : Graceful start targets deadline none history)
    (hcall : IsGraceful start targets deadline history call)
    (hfailure : call.failure? (behind start history) = fault?) :
    Graceful start targets deadline fault? (history ++ [call]) where
  calls := throughout_concat.mpr ⟨h.calls, hcall⟩
  raised fault := by
    rw [raised_concat_iff, h.raised, hfailure]
    simp

theorem Graceful.ask (h : Graceful start targets deadline none history) (pid : Nat) :
    Graceful start targets deadline none (history ++ [.asked pid]) :=
  h.concat trivial rfl

theorem Graceful.asks (h : Graceful start targets deadline none history) (pids : List Nat) :
    Graceful start targets deadline none (history ++ pids.map .asked) := by
  induction pids generalizing history with
  | nil => simpa using h
  | cons pid rest ih =>
      rw [List.map_cons, List.append_cons]
      exact ih (h.ask pid)

theorem failure?_posted (page : String) (timeout : Rat) (machine : σ) :
    (Call.posted page timeout).failure? machine =
      match agreement (Machine.httpPost page timeout machine).1.result with
      | .ok _ => none
      | .error fault => some fault := by
  simp only [Call.failure?]
  generalize (Machine.httpPost page timeout machine).1.result = answer
  cases answer with
  | ok status => rfl
  | error fault => cases fault <;> rfl

end Histories

structure Unrequested [Machine σ] (start : σ) (targets : List (Nat × String)) (deadline : Rat)
    (rest : List (Nat × String)) (history : List Call) : Prop where
  graceful : Graceful start targets deadline none history
  among : rest ⊆ targets
  distinct : (rest.map (·.1)).Nodup
  unrequested : ∀ target ∈ rest, ¬Requested history target.1

section Unrequested

variable [Machine σ] {start : σ} {targets rest : List (Nat × String)} {deadline timeout : Rat}
  {target : Nat × String} {history : List Call}

theorem unrequested_all (hdistinct : (targets.map (·.1)).Nodup) :
    Unrequested start targets deadline targets [] where
  graceful := graceful_nil
  among := List.Subset.refl _
  distinct := hdistinct
  unrequested := by simp [Requested]

theorem Unrequested.asked (h : Unrequested start targets deadline (target :: rest) history) :
    Unrequested start targets deadline rest (history ++ [.asked target.1]) where
  graceful := h.graceful.ask target.1
  among := List.subset_of_cons_subset h.among
  distinct := (List.nodup_cons.mp h.distinct).2
  unrequested other hother := by
    rw [requested_ask_iff]
    exact h.unrequested other (List.mem_cons_of_mem target hother)

theorem Unrequested.due (h : Unrequested start targets deadline (target :: rest) history)
    (hruns : (Machine.exitCode target.1 (behind start history)).1 = .ok none)
    (hpositive : 0 < deadline - Machine.now (behind start history)) :
    IsGraceful start targets deadline (history ++ [.asked target.1])
      (.posted (stopPage target.2) (deadline - Machine.now (behind start history))) :=
  ⟨target, h.among (by simp), history, rfl, isStopPage_stopPage target.2, hruns, rfl, hpositive,
    h.unrequested target (by simp)⟩

theorem Unrequested.posted (h : Unrequested start targets deadline (target :: rest) history)
    {page : String} (hgraceful : Graceful start targets deadline none
      (history ++ [.asked target.1] ++ [.posted page timeout])) :
    Unrequested start targets deadline rest
      (history ++ [.asked target.1] ++ [.posted page timeout]) where
  graceful := hgraceful
  among := h.asked.among
  distinct := h.asked.distinct
  unrequested other hother := by
    rw [requested_post_iff, not_or]
    refine ⟨h.unrequested other (List.mem_cons_of_mem target hother), ?_⟩
    intro hsame
    exact (List.nodup_cons.mp h.distinct).1 (List.mem_map.mpr ⟨other, hother, hsame.symm⟩)

end Unrequested

namespace Act

variable [Machine σ] {start : σ} {targets : List (Nat × String)} {deadline : Rat}
  {past : List Call}

theorem requestStops_graceful (thread : String)
    (hanswers : ∀ target ∈ targets, ∀ machine : σ, (Machine.exitCode target.1 machine).1.isOk)
    (hdistinct : (targets.map (·.1)).Nodup) :
    (requestStops thread deadline targets : Act σ (List Nat)).Makes start []
      fun outcome history => match outcome with
        | .ok agreed => Graceful start targets deadline none history ∧ agreed ⊆ targets.map (·.1)
        | .error fault => Graceful start targets deadline (some fault) history := by
  refine (requestStops_rounds (I := Unrequested start targets deadline)
    (F := fun fault => Graceful start targets deadline (some fault)) thread hanswers
    (fun _ _ _ h => h.asked) ?_ (unrequested_all hdistinct)).mono ?_
  · rintro target rest history _ h hruns rfl hpositive
    have hdue := h.due (runsStill_concat_iff.mp hruns) hpositive
    have hfailure := failure?_posted (stopPage target.2)
      (deadline - Machine.now (behind start history)) (behind start (history ++ [.asked target.1]))
    split
    · rename_i hanswer
      rw [hanswer] at hfailure
      exact h.posted ((h.graceful.ask target.1).concat hdue hfailure)
    · rename_i hanswer
      rw [hanswer] at hfailure
      exact (h.graceful.ask target.1).concat hdue hfailure
  · rintro (fault | agreed) history hend
    · exact hend
    · obtain ⟨⟨_, hleft⟩, -, hagreed⟩ := hend
      refine ⟨hleft.graceful, fun pid hpid => ?_⟩
      obtain ⟨target, htarget, rfl, -⟩ := hagreed pid hpid
      exact List.mem_map.mpr ⟨target, htarget, rfl⟩

theorem anyAlive_graceful {pids : List Nat}
    (hanswers : ∀ pid ∈ pids, ∀ machine : σ, (Machine.exitCode pid machine).1.isOk)
    (hpast : Graceful start targets deadline none past) :
    (anyAlive pids : Act σ Bool).Makes start past fun outcome history =>
      (∃ alive, outcome = .ok alive) ∧ Graceful start targets deadline none history ∧
        (KeepsTime σ → Machine.now (behind start past) ≤ Machine.now (behind start history)) := by
  refine (anyAlive_asks hanswers).mono ?_
  rintro _ _ ⟨asked, alive, -, rfl, rfl, -⟩
  refine ⟨⟨alive, rfl⟩, hpast.asks asked, fun htime => ?_⟩
  rw [behind_append]
  exact now_le_asked (fun pid _ => htime.asked pid) _

/-- On a machine that keeps time each wait takes one of the intervals that are left, so there are
looks enough. -/
theorem awaitExits_graceful {pids : List Nat} {looks : Nat}
    (hanswers : ∀ pid ∈ pids, ∀ machine : σ, (Machine.exitCode pid machine).1.isOk)
    (hlooks : KeepsTime σ → ∃ waits < looks,
      deadline - Machine.now (behind start past) ≤ (waits : Nat))
    (hpast : Graceful start targets deadline none past) :
    (awaitExits pids deadline looks : Act σ Unit).Makes start past
      (GracefulEnd start targets deadline) := by
  induction looks generalizing past with
  | zero =>
      refine makes_of_still fun _ _ => yields_raise ⟨rfl, rfl, Or.inr ⟨rfl, fun htime => ?_, hpast⟩⟩
      obtain ⟨waits, hfewer, -⟩ := hlooks htime
      exact absurd hfewer (Nat.not_lt_zero waits)
  | succ looks ih =>
      refine makes_bind ((anyAlive_graceful hanswers hpast).mono ?_)
      rintro _ asked ⟨⟨alive, rfl⟩, hasked, hsteady⟩
      cases alive with
      | false => exact makes_pure hasked
      | true =>
          refine makes_bind (makes_askMachine ?_)
          dsimp only
          split
          · rename_i hleft
            set wait := min stopPollInterval (deadline - Machine.now (behind start asked))
            refine makes_bind (sleep_makes wait ?_)
            cases houtcome : (Machine.sleep wait (behind start asked)).1 with
            | error fault =>
                exact Or.inl (hasked.concat trivial (by simp [Call.failure?, houtcome]))
            | ok _ =>
                refine ih (fun htime => ?_)
                  (hasked.concat trivial (by simp [Call.failure?, houtcome]))
                obtain ⟨waits, hfewer, hwaits⟩ := hlooks htime
                obtain ⟨fewer, rfl, hless⟩ := intervals_after_wait hleft
                  ((sub_le_sub_left (hsteady htime) deadline).trans hwaits)
                refine ⟨fewer, Nat.lt_of_succ_lt_succ hfewer, ?_⟩
                rw [behind_append]
                exact hless _ (htime.slept wait _ (lt_min (by decide) hleft) houtcome)
          · exact makes_pure hasked

/-- Before anything is killed, every request is for an instance that was found running, and each
gets one at most. -/
theorem stopGracefully_graceful (thread : String)
    (hanswers : ∀ target ∈ targets, ∀ machine : σ, (Machine.exitCode target.1 machine).1.isOk)
    (hdistinct : (targets.map (·.1)).Nodup) :
    (stopGracefully thread targets deadline : Act σ Unit).Makes start []
      (GracefulEnd start targets deadline) := by
  refine makes_bind ((requestStops_graceful thread hanswers hdistinct).mono ?_)
  rintro (fault | agreed) requested hrequested
  · exact Or.inl hrequested
  · obtain ⟨hgraceful, hagreed⟩ := hrequested
    refine makes_bind (makes_askMachine (makes_bind (makes_get fun world _ => ?_)))
    have hpids : ∀ pid ∈ agreed, ∀ machine : σ, (Machine.exitCode pid machine).1.isOk := by
      intro pid hpid
      obtain ⟨target, htarget, rfl⟩ := List.mem_map.mp (hagreed hpid)
      exact hanswers target htarget
    exact awaitExits_graceful hpids (fun _ => ⟨_, looksWithin_enough _ world.patience⟩) hgraceful

end Act

/-! ### The second part -/

def stillRunning (looks : List (Nat × Bool)) : List Nat :=
  (looks.filter (·.2)).map (·.1)

@[simp]
def Call.kill? : Call → Option Nat
  | .killed pid => some pid
  | _ => none

section Looks

variable {looks : List (Nat × Bool)} {done : List Event} {calls : List Call}

theorem lastCalls_kills (look : Nat × Bool) :
    (lastCalls look).filterMap Call.kill? = if look.2 then [look.1] else [] := by
  unfold lastCalls
  split <;> rfl

theorem flatMap_lastCalls_kills (looks : List (Nat × Bool)) :
    (looks.flatMap lastCalls).filterMap Call.kill? = stillRunning looks := by
  induction looks with
  | nil => rfl
  | cons look rest ih =>
      rw [List.flatMap_cons, List.filterMap_append, lastCalls_kills, ih, stillRunning, stillRunning,
        List.filter_cons]
      split <;> rfl

theorem killsIn_eq (hcalls : callsIn done = calls.filter Call.isNoted) :
    killsIn done = calls.filterMap Call.kill? := by
  have hview : ∀ event : Event, event.kill? = event.call?.bind Call.kill? := by
    intro event
    cases event <;> rfl
  have hnoted : ∀ call : Call, (if call.isNoted then call.kill? else none) = call.kill? := by
    intro call
    cases call <;> rfl
  calc killsIn done = (callsIn done).filterMap Call.kill? := by
        rw [callsIn, picked, List.filterMap_filterMap]
        exact List.filterMap_congr fun event _ => hview event
    _ = (calls.filter Call.isNoted).filterMap Call.kill? := by rw [hcalls]
    _ = calls.filterMap Call.kill? := by
        rw [List.filterMap_filter]
        exact List.filterMap_congr fun call _ => hnoted call

theorem stillRunning_subset : stillRunning looks ⊆ looks.map (·.1) :=
  (List.filter_sublist.map _).subset

/-- Where each process is looked at once, the looks tell which still ran. -/
theorem map_not_alive (hdistinct : (looks.map (·.1)).Nodup) :
    looks.map (!·.2) = (looks.map (·.1)).map fun pid => decide (pid ∉ stillRunning looks) := by
  induction looks with
  | nil => rfl
  | cons look rest ih =>
      obtain ⟨pid, alive⟩ := look
      rw [List.map_cons, List.nodup_cons] at hdistinct
      obtain ⟨hapart, hdistinct⟩ := hdistinct
      have hnew : pid ∉ stillRunning rest := fun hmem => hapart (stillRunning_subset hmem)
      have hothers : ∀ other ∈ rest.map (·.1),
          (other ∈ stillRunning ((pid, alive) :: rest) ↔ other ∈ stillRunning rest) := by
        intro other hother
        have hne : other ≠ pid := by
          rintro rfl
          exact hapart hother
        cases alive <;> simp [stillRunning, hne]
      rw [List.map_cons, List.map_cons, List.map_cons, ih hdistinct]
      refine congrArg₂ List.cons ?_ (List.map_congr_left fun other hother => ?_)
      · cases alive with
        | true => simp [stillRunning]
        | false => simpa [stillRunning] using hnew
      · rw [decide_eq_decide, hothers other hother]

variable [Machine σ] {start : σ} {past : List Call} {pids : List Nat}

theorem GracefulEnd.throughout {α : Type} {targets : List (Nat × String)} {deadline : Rat}
    {outcome : Except Fault α} (h : GracefulEnd start targets deadline outcome calls) :
    Throughout (IsGraceful start targets deadline) calls := by
  cases outcome with
  | ok _ => exact h.calls
  | error fault =>
      obtain h | ⟨-, -, h⟩ := h
      · exact h.calls
      · exact h.calls

theorem graceful_kills {targets : List (Nat × String)} {deadline : Rat}
    (h : Throughout (IsGraceful start targets deadline) calls) :
    calls.filterMap Call.kill? = [] := by
  refine List.filterMap_eq_nil_iff.mpr fun call hmem => ?_
  obtain ⟨before, rest, hsplit⟩ := List.append_of_mem hmem
  have hcall := h before call rest hsplit
  cases call with
  | killed pid => exact hcall.elim
  | asked pid => rfl
  | posted page timeout => rfl
  | slept seconds => rfl

end Looks

namespace Act

variable [Machine σ] {start : σ}

/-! ### Both parts -/

/-- What stops all targets is the first part and then the second, whatever becomes of the first. -/
theorem stopAll_parts {targets : List (Nat × String)} (hdistinct : (targets.map (·.1)).Nodup)
    (hanswers : ∀ target ∈ targets, ∀ machine : σ, (Machine.exitCode target.1 machine).1.isOk)
    (thread : String) (timeout : Rat) :
    (stopAll thread targets timeout : Act σ (List Bool)).Makes start [] fun outcome history =>
      ∃ first looks, history = first ++ looks.flatMap lastCalls ∧
        GracefulEnd start targets (Machine.now start + max timeout 0) outcome first ∧
        (timeout ≤ 0 → first = []) ∧ LastLooks start first (targets.map (·.1)) looks ∧
        ∀ stopped, outcome = .ok stopped → stopped = looks.map (!·.2) := by
  set deadline := Machine.now start + max timeout 0
  have hfirst : (if 0 < timeout then stopGracefully thread targets deadline else pure () :
      Act σ Unit).Makes start [] fun outcome first =>
        GracefulEnd start targets deadline outcome first ∧ (timeout ≤ 0 → first = []) := by
    split
    · rename_i hpositive
      refine (stopGracefully_graceful thread hanswers hdistinct).mono fun outcome first hend => ?_
      exact ⟨hend, fun hnone => absurd hpositive (not_lt.mpr hnone)⟩
    · exact makes_pure ⟨graceful_nil, fun _ => rfl⟩
  have hpids : ∀ pid ∈ targets.map (·.1), ∀ machine : σ, (Machine.exitCode pid machine).1.isOk := by
    intro pid hpid
    obtain ⟨target, htarget, rfl⟩ := List.mem_map.mp hpid
    exact hanswers target htarget
  refine makes_bind (makes_askMachine (makes_bind (makes_ensuring ?_)))
  rw [behind_nil, budget_eq_max]
  refine hfirst.mono ?_
  rintro outcome first ⟨hend, hnone⟩
  refine (killAlive_looks hpids).mono ?_
  rintro _ history ⟨looks, rfl, hlooks, rfl⟩
  cases outcome with
  | error fault => exact ⟨first, looks, rfl, hend, hnone, hlooks, by simp⟩
  | ok _ => exact makes_pure ⟨first, looks, rfl, hend, hnone, hlooks, by simp⟩

/-- Each target gets one request at most, while it runs and there is time. Whatever becomes of this,
the targets that still run are killed in order behind it, once each, and the fault that ended it is
raised. Without one, a target counts as stopped unless it was killed. -/
theorem stop_then_kill {targets : List (Nat × String)} (hdistinct : (targets.map (·.1)).Nodup)
    (hanswers : ∀ target ∈ targets, ∀ machine : σ, (Machine.exitCode target.1 machine).1.isOk)
    (thread : String) (timeout : Rat) (world : World σ) :
    (stopAll thread targets timeout).Yields world fun outcome done after => ∃ first looks,
      after.machine = behind world.machine (first ++ looks.flatMap lastCalls) ∧
      callsIn done = (first ++ looks.flatMap lastCalls).filter Call.isNoted ∧
      GracefulEnd world.machine targets (Machine.now world.machine + max timeout 0) outcome first ∧
      (timeout ≤ 0 → first = []) ∧
      LastLooks world.machine first (targets.map (·.1)) looks ∧
      killsIn done = stillRunning looks ∧
      ∀ stopped, outcome = .ok stopped →
        stopped = targets.map fun target => decide (target.1 ∉ killsIn done) := by
  have hparts : (stopAll thread targets timeout).Makes world.machine [] _ :=
    stopAll_parts hdistinct hanswers thread timeout
  refine (hparts world rfl).mono ?_
  rintro outcome done after ⟨calls, hafter, hcalls, first, looks, rfl, hend, hnone, hlooks, hall⟩
  have hkills : killsIn done = stillRunning looks := by
    rw [killsIn_eq hcalls, List.filterMap_append, flatMap_lastCalls_kills,
      graceful_kills hend.throughout, List.nil_append]
  refine ⟨first, looks, hafter, hcalls, hend, hnone, hlooks, hkills, fun stopped hstopped => ?_⟩
  rw [hall stopped hstopped, hkills, map_not_alive (hlooks.order ▸ hdistinct), hlooks.order,
    List.map_map]
  rfl

end Act

theorem keepsTime_ticking : KeepsTime Ticking where
  asked _ _ := le_rfl
  slept _ _ _ _ := le_rfl

def slowTargets : List (Nat × String) :=
  [(2, "http://localhost:8080"), (9, "http://localhost:8081//")]

theorem stop_then_kill_ticking :
    (slowTargets.map (·.1)).Nodup ∧
    (∀ target ∈ slowTargets, ∀ machine : Ticking, (Machine.exitCode target.1 machine).1.isOk) ∧
    KeepsTime Ticking ∧
    (Act.stopAll mainThread slowTargets 3).Yields Ticking.twoInstances fun outcome done _ =>
      (∃ first, GracefulEnd (Ticking.mk 0) slowTargets 3 outcome first) ∧
        outcome = .ok [true, false] ∧ 2 ∉ killsIn done ∧ 9 ∈ killsIn done := by
  have hdistinct : (slowTargets.map (·.1)).Nodup := by decide
  have hanswers : ∀ target ∈ slowTargets, ∀ machine : Ticking,
      (Machine.exitCode target.1 machine).1.isOk := fun _ _ _ => rfl
  refine ⟨hdistinct, hanswers, keepsTime_ticking, ?_⟩
  have hok : ((Act.stopAll mainThread slowTargets 3).perform Ticking.twoInstances).1.toOption =
      some [true, false] := by
    decide +kernel
  have houtcome := congrArg Prod.fst (Act.perform_of_toOption hok)
  obtain ⟨done, hjournal, first, looks, -, -, hend, -, -, -, hstopped⟩ :=
    Act.stop_then_kill hdistinct hanswers mainThread 3 Ticking.twoInstances
  have hdeadline : Machine.now Ticking.twoInstances.machine + max 3 0 = 3 := by decide +kernel
  rw [hdeadline] at hend
  have hkept := hstopped _ houtcome
  rw [slowTargets, List.map_cons, List.map_cons, List.map_nil] at hkept
  obtain ⟨htwo, hnine⟩ := List.cons_eq_cons.mp hkept
  refine ⟨done, hjournal, ⟨first, hend⟩, houtcome, of_decide_eq_true htwo.symm, ?_⟩
  simpa using hnine

end AppSupervisor
