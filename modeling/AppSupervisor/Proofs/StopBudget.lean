import AppSupervisor.Proofs.ShuttingDown
import AppSupervisor.Proofs.StopCalls
import Mathlib.Algebra.Order.Ring.Rat
import Mathlib.Data.List.Induction
import Mathlib.Tactic.Linarith

/-!
Stopping instances within one budget of time.

The deadline is fixed once. A request is given what is left until then and so is a wait, so neither
can outlast the deadline, however many instances there are and however they behave. A wait that is
not cut short lasts for a whole poll interval or until the deadline, which bounds the number of
waits.
-/

namespace AppSupervisor

variable {σ : Type}

def Call.span : Call → Rat
  | .posted _ timeout => timeout
  | .slept seconds => seconds
  | .asked _ | .killed _ => 0

/-- A machine with exact times on which all processes answer. A call takes no more than it is given,
so questions and kills take no time, and a wait that is not cut short takes all of it. -/
structure Punctual (σ : Type) [Machine σ] : Prop where
  answers : Answers σ
  spans : ∀ (call : Call) (machine : σ), (call.isTimed → 0 < call.span) →
    Machine.now machine ≤ Machine.now (call.step machine) ∧
      Machine.now (call.step machine) ≤ Machine.now machine + call.span
  waits : ∀ (seconds : Rat) (machine : σ), 0 < seconds →
    (Machine.sleep seconds machine).1 = .ok () →
    Machine.now (Machine.sleep seconds machine).2 = Machine.now machine + seconds

section Calls

variable [Machine σ] (start : σ)

def OnTime (targets : List (Nat × String)) (deadline : Rat) (before : List Call) : Call → Prop
  | .posted _ timeout => timeout = deadline - Machine.now (behind start before) ∧ 0 < timeout
  | .slept seconds => 0 < seconds ∧ seconds ≤ stopPollInterval ∧
      seconds ≤ deadline - Machine.now (behind start before) ∧
      ∃ target ∈ targets, Agreed start before target ∧ RunsStill start before target.1
  | .asked _ | .killed _ => True

def Reported (history : List Call) (fault : Fault) : Prop :=
  ∃ before call, before ++ [call] <+: history ∧ match call with
    | .posted page timeout =>
        (Machine.httpPost page timeout (behind start before)).1.result = .error fault
    | .slept seconds => (Machine.sleep seconds (behind start before)).1 = .error fault
    | .asked _ | .killed _ => False

abbrev waitsIn (history : List Call) : Nat := history.countP Call.isSleep

/-- How instances are stopped within a budget: no call is late, there are no more waits than the
budget has poll intervals, and the clock does not pass the deadline. Without a budget nothing takes
time, and only the machine fails. -/
structure Budgeted {α : Type} (targets : List (Nat × String)) (timeout : Rat)
    (outcome : Except Fault α) (calls : List Call) : Prop where
  onTime : Throughout (OnTime start targets (Machine.now start + max timeout 0)) calls
  waits : waitsIn calls ≤ (max timeout 0).ceil.toNat
  ends : Machine.now (behind start calls) ≤ Machine.now start + max timeout 0
  swift : timeout ≤ 0 → ∀ call ∈ calls, call.isTimed = false
  reported : ∀ fault, outcome = .error fault → Reported start calls fault

end Calls

section History

variable [Machine σ] {start : σ} {targets : List (Nat × String)} {target : Nat × String}
  {deadline : Rat} {past history : List Call} {fault : Fault}

theorem Reported.extend (h : Reported start past fault) (hlonger : past <+: history) :
    Reported start history fault := by
  obtain ⟨before, call, hbefore, hfailed⟩ := h
  exact ⟨before, call, hbefore.trans hlonger, hfailed⟩

/-- Calls that are on time never make the clock pass the deadline. -/
theorem Punctual.now_le_deadline (hpunctual : Punctual σ)
    (hstart : Machine.now start ≤ deadline)
    (hhistory : Throughout (OnTime start targets deadline) history) :
    Machine.now start ≤ Machine.now (behind start history) ∧
      Machine.now (behind start history) ≤ deadline := by
  induction history using List.reverseRecOn with
  | nil => exact ⟨le_refl _, hstart⟩
  | append_singleton past call ih =>
      obtain ⟨hpast, hcall⟩ := throughout_concat.mp hhistory
      obtain ⟨hlow, hhigh⟩ := ih hpast
      have hspan : call.span ≤ deadline - Machine.now (behind start past) ∧
          (call.isTimed → 0 < call.span) := by
        cases call with
        | posted page timeout => exact ⟨hcall.1.le, fun _ => hcall.2⟩
        | slept seconds => exact ⟨hcall.2.2.1, fun _ => hcall.1⟩
        | asked pid => exact ⟨sub_nonneg.mpr hhigh, by simp [Call.isTimed]⟩
        | killed pid => exact ⟨sub_nonneg.mpr hhigh, by simp [Call.isTimed]⟩
      obtain ⟨hafter, hwithin⟩ := hpunctual.spans call (behind start past) hspan.2
      rw [behind_append, behind_cons, behind_nil]
      exact ⟨hlow.trans hafter, by linarith [hspan.1]⟩

/-- With no time left, calls that are on time take none. -/
theorem Punctual.untimed_of_onTime (hpunctual : Punctual σ)
    (hhistory : Throughout (OnTime start targets (Machine.now start)) history) :
    ∀ call ∈ history, call.isTimed = false := by
  intro call hcall
  obtain ⟨before, rest, rfl⟩ := List.append_of_mem hcall
  have hbefore : Throughout (OnTime start targets (Machine.now start)) before := by
    intro earlier other later hsplit
    exact hhistory earlier other (later ++ call :: rest) (by simp [hsplit])
  have hnow := (hpunctual.now_le_deadline le_rfl hbefore).1
  have honTime := hhistory before call rest rfl
  cases call with
  | posted page timeout => linarith [honTime.1, honTime.2]
  | slept seconds => linarith [honTime.1, honTime.2.2.1]
  | asked pid => rfl
  | killed pid => rfl

end History

def Instant (past history : List Call) : Prop :=
  ∃ calls, history = past ++ calls ∧ ∀ call ∈ calls, call.isTimed = false

section Instant

variable {start : σ} {past between history : List Call}

theorem instant_refl : Instant past past := ⟨[], by simp, by simp⟩

theorem instant_append {calls : List Call} (h : ∀ call ∈ calls, call.isTimed = false) :
    Instant past (past ++ calls) := ⟨calls, rfl, h⟩

theorem instant_concat {call : Call} (h : call.isTimed = false) :
    Instant past (past ++ [call]) := instant_append (by simpa using h)

theorem Instant.trans (hfirst : Instant past between) (hmore : Instant between history) :
    Instant past history := by
  obtain ⟨calls, rfl, hcalls⟩ := hfirst
  obtain ⟨further, rfl, hfurther⟩ := hmore
  refine ⟨calls ++ further, List.append_assoc .., fun call hcall => ?_⟩
  exact (List.mem_append.mp hcall).elim (hcalls call) (hfurther call)

theorem Instant.longer (h : Instant past history) : past <+: history := by
  obtain ⟨calls, rfl, -⟩ := h
  exact List.prefix_append past calls

theorem Instant.waitsIn_eq (h : Instant past history) : waitsIn history = waitsIn past := by
  obtain ⟨calls, rfl, hcalls⟩ := h
  have hnone : calls.countP Call.isSleep = 0 := by
    refine List.countP_eq_zero.mpr fun call hcall => ?_
    have huntimed := hcalls call hcall
    cases call <;> simp_all [Call.isTimed, Call.isSleep]
  rw [waitsIn, List.countP_append, hnone, Nat.add_zero]

variable [Machine σ]

theorem Instant.now_eq (h : Instant past history) (hpunctual : Punctual σ) :
    Machine.now (behind start history) = Machine.now (behind start past) := by
  obtain ⟨calls, rfl, hcalls⟩ := h
  induction calls using List.reverseRecOn with
  | nil => simp
  | append_singleton calls call ih =>
      have huntimed : call.isTimed = false := hcalls call (by simp)
      have hspan : call.span = 0 := by
        cases call <;> simp_all [Call.isTimed, Call.span]
      obtain ⟨hlow, hhigh⟩ := hpunctual.spans call (behind start (past ++ calls))
        (by simp [huntimed])
      rw [hspan, add_zero] at hhigh
      rw [← List.append_assoc, behind_append, behind_cons, behind_nil, le_antisymm hhigh hlow]
      exact ih fun other hother => hcalls other (by simp [hother])

theorem Instant.onTime {targets : List (Nat × String)} {deadline : Rat}
    (h : Instant past history) (hpast : Throughout (OnTime start targets deadline) past) :
    Throughout (OnTime start targets deadline) history := by
  obtain ⟨calls, rfl, hcalls⟩ := h
  induction calls using List.reverseRecOn with
  | nil => simpa using hpast
  | append_singleton calls call ih =>
      rw [← List.append_assoc, throughout_concat]
      refine ⟨ih fun other hother => hcalls other (by simp [hother]), ?_⟩
      have huntimed : call.isTimed = false := hcalls call (by simp)
      cases call <;> simp_all [Call.isTimed, OnTime]

end Instant

structure Proceeds [Machine σ] (start : σ) (targets : List (Nat × String)) (deadline : Rat)
    (waits : Nat) (past history : List Call) : Prop where
  longer : past <+: history
  onTime : Throughout (OnTime start targets deadline) history
  waits : waitsIn history ≤ waitsIn past + waits

theorem budget_eq_max (timeout : Rat) : (if 0 < timeout then timeout else 0) = max timeout 0 := by
  split
  · rename_i hpositive
    exact (max_eq_left hpositive.le).symm
  · rename_i hnone
    exact (max_eq_right (not_lt.mp hnone)).symm

/-- There is a look for each interval that is left, and one more. -/
theorem looksWithin_enough (left : Rat) (patience : Nat) :
    left.ceil.toNat < Act.looksWithin left + patience ∧ left ≤ (left.ceil.toNat : Nat) :=
  ⟨Nat.lt_add_right patience (Nat.lt_succ_self _),
    Rat.le_ceil.trans (by exact_mod_cast Int.self_le_toNat left.ceil)⟩

/-- A wait lasts for an interval or for what is left, so it takes one from the intervals left. -/
theorem intervals_after_wait {deadline now : Rat} {waits : Nat} (hpositive : 0 < deadline - now)
    (h : deadline - now ≤ waits) :
    ∃ fewer, waits = fewer + 1 ∧ ∀ later, now + min stopPollInterval (deadline - now) ≤ later →
      deadline - later ≤ (fewer : Nat) := by
  cases waits with
  | zero => exact absurd h (not_le.mpr (by simpa using hpositive))
  | succ fewer =>
      refine ⟨fewer, rfl, fun later hlater => ?_⟩
      rw [Nat.cast_add_one] at h
      have hwait : deadline - now - min stopPollInterval (deadline - now) ≤ fewer := by
        rw [sub_le_iff_le_add]
        rcases le_total stopPollInterval (deadline - now) with hle | hle
        · rw [min_eq_left hle]
          exact h
        · rw [min_eq_right hle]
          exact le_add_of_nonneg_left (Nat.cast_nonneg fewer)
      calc deadline - later ≤ deadline - (now + min stopPollInterval (deadline - now)) :=
            sub_le_sub_left hlater deadline
        _ = deadline - now - min stopPollInterval (deadline - now) := by rw [sub_sub]
        _ ≤ fewer := hwait

section Proceeds

variable [Machine σ] {start : σ} {targets : List (Nat × String)} {deadline : Rat}
  {waits more : Nat} {past between history : List Call}

theorem Proceeds.trans (hfirst : Proceeds start targets deadline waits past between)
    (hmore : Proceeds start targets deadline more between history) :
    Proceeds start targets deadline (waits + more) past history := by
  refine ⟨hfirst.longer.trans hmore.longer, hmore.onTime, hmore.waits.trans ?_⟩
  rw [← Nat.add_assoc]
  exact Nat.add_le_add_right hfirst.waits more

theorem Proceeds.mono (h : Proceeds start targets deadline waits past history)
    (hle : waits ≤ more) : Proceeds start targets deadline more past history :=
  ⟨h.longer, h.onTime, h.waits.trans (Nat.add_le_add_left hle _)⟩

theorem Instant.proceeds (h : Instant past history)
    (hpast : Throughout (OnTime start targets deadline) past) :
    Proceeds start targets deadline 0 past history :=
  ⟨h.longer, h.onTime hpast, h.waitsIn_eq.le⟩

theorem proceeds_post (page : String) {timeout : Rat}
    (hpast : Throughout (OnTime start targets deadline) past)
    (hleft : timeout = deadline - Machine.now (behind start past)) (hpositive : 0 < timeout) :
    Proceeds start targets deadline 0 past (past ++ [.posted page timeout]) := by
  refine ⟨List.prefix_append _ _, throughout_concat.mpr ⟨hpast, hleft, hpositive⟩, ?_⟩
  simp [waitsIn, Call.isSleep]

theorem proceeds_wait {target : Nat × String}
    (hpast : Throughout (OnTime start targets deadline) past) (htarget : target ∈ targets)
    (hagreed : Agreed start past target) (hruns : RunsStill start past target.1)
    (hleft : 0 < deadline - Machine.now (behind start past)) :
    Proceeds start targets deadline 1 past
      (past ++ [.slept (min stopPollInterval (deadline - Machine.now (behind start past)))]) := by
  refine ⟨List.prefix_append _ _, throughout_concat.mpr ⟨hpast, ?_, ?_, ?_, ?_⟩, ?_⟩
  · exact lt_min (by decide) hleft
  · exact min_le_left _ _
  · exact min_le_right _ _
  · exact ⟨target, htarget, hagreed, hruns⟩
  · simp [waitsIn, Call.isSleep]

/-- Calls on time, with no more waits than there are intervals, keep to the budget. -/
theorem Proceeds.budgeted {α : Type} {timeout : Rat} {outcome : Except Fault α}
    (hpunctual : Punctual σ)
    (h : Proceeds start targets (Machine.now start + max timeout 0) (max timeout 0).ceil.toNat []
      history)
    (hreported : ∀ fault, outcome = .error fault → Reported start history fault) :
    Budgeted start targets timeout outcome history where
  onTime := h.onTime
  waits := by simpa [waitsIn] using h.waits
  ends := by
    have hstart : Machine.now start ≤ Machine.now start + max timeout 0 :=
      le_add_of_nonneg_right (le_max_right timeout 0)
    exact (hpunctual.now_le_deadline hstart h.onTime).2
  swift hnone := by
    have honTime := h.onTime
    rw [max_eq_right hnone, add_zero] at honTime
    exact hpunctual.untimed_of_onTime honTime
  reported := hreported

end Proceeds

namespace Act

variable [Machine σ] {start : σ} {past : List Call}

/-! ### Questions and kills -/

theorem anyAlive_makes (hanswers : Answers σ) (pids : List Nat) :
    (anyAlive pids : Act σ Bool).Makes start past fun outcome history =>
      Instant past history ∧ ∃ alive, outcome = .ok alive ∧
        (alive → ∃ pid ∈ pids, RunsStill start history pid) := by
  refine (anyAlive_asks fun pid _ => hanswers pid).mono ?_
  rintro _ _ ⟨asked, alive, -, rfl, rfl, hruns⟩
  exact ⟨instant_append (by simp [Call.isTimed]), alive, rfl, hruns⟩

theorem killAlive_makes (hanswers : Answers σ) (pids : List Nat) :
    (killAlive pids : Act σ (List Bool)).Makes start past fun outcome history =>
      Instant past history ∧ ∃ stopped, outcome = .ok stopped := by
  refine (killAlive_looks fun pid _ => hanswers pid).mono ?_
  rintro _ _ ⟨looks, rfl, -, rfl⟩
  exact ⟨instant_append (lastCalls_untimed looks), _, rfl⟩

theorem livingTargets_makes (hanswers : Answers σ) (instances : List Instance) :
    (livingTargets instances : Act σ (List (Nat × String))).Makes start past
      fun outcome history => Instant past history ∧ ∃ targets, outcome = .ok targets := by
  refine (livingTargets_asks fun i _ => hanswers i.pid).mono ?_
  rintro _ _ ⟨rfl, targets, rfl, -⟩
  exact ⟨instant_append (by simp [Call.isTimed]), targets, rfl⟩

theorem killLiving_makes (hanswers : Answers σ) (instances : List Instance) :
    (killLiving instances : Act σ Unit).Makes start past fun outcome history =>
      Instant past history ∧ outcome = .ok () := by
  refine (killLiving_looks fun i _ => hanswers i.pid).mono ?_
  rintro _ _ ⟨looks, rfl, -, rfl⟩
  exact ⟨instant_append (lastCalls_untimed looks), rfl⟩

/-! ### Requests -/

theorem requestStops_makes {targets : List (Nat × String)} {deadline : Rat}
    (hpunctual : Punctual σ) (thread : String)
    (hpast : Throughout (OnTime start targets deadline) past) :
    (requestStops thread deadline targets : Act σ (List Nat)).Makes start past
      fun outcome history => Proceeds start targets deadline 0 past history ∧ match outcome with
        | .ok agreed => ∀ pid ∈ agreed, ∃ target ∈ targets, target.1 = pid ∧
            Agreed start history target
        | .error fault => Reported start history fault := by
  have hasked (pid : Nat) {history : List Call}
      (h : Proceeds start targets deadline 0 past history) :
      Proceeds start targets deadline 0 past (history ++ [.asked pid]) :=
    h.trans ((instant_concat rfl).proceeds h.onTime)
  refine (requestStops_rounds (I := fun _ => Proceeds start targets deadline 0 past)
    (F := fun fault history => Proceeds start targets deadline 0 past history ∧
      Reported start history fault) thread (fun target _ => hpunctual.answers target.1)
    (fun target _ _ h => hasked target.1 h) ?_ (instant_refl.proceeds hpast)).mono ?_
  · intro target _ history timeout h _ htimeout hpositive
    have hinstant : Instant history (history ++ [.asked target.1]) := instant_concat rfl
    have hposted := (hasked target.1 h).trans (proceeds_post (stopPage target.2)
      (hasked target.1 h).onTime (by rw [hinstant.now_eq hpunctual, htimeout]) hpositive)
    split
    · exact hposted
    · rename_i fault hfault
      exact ⟨hposted, _, _, List.prefix_rfl, agreement_eq_error hfault⟩
  · rintro (fault | agreed) history hend
    · exact hend
    · obtain ⟨⟨_, hproceeds⟩, -, hagreed⟩ := hend
      exact ⟨hproceeds, hagreed⟩

/-! ### Waiting -/

/-- Each wait that is not cut short lasts for an interval or until the deadline, so the looks last
until all processes have exited or the time has come. -/
theorem awaitExits_makes {targets : List (Nat × String)} {deadline : Rat} {pids : List Nat}
    (hpunctual : Punctual σ) {waits looks : Nat} (hlooks : waits < looks)
    (hwaits : deadline - Machine.now (behind start past) ≤ waits)
    (hpids : ∀ pid ∈ pids, ∃ target ∈ targets, target.1 = pid ∧ Agreed start past target)
    (hpast : Throughout (OnTime start targets deadline) past) :
    (awaitExits pids deadline looks : Act σ Unit).Makes start past fun outcome history =>
      Proceeds start targets deadline waits past history ∧
        ∀ fault, outcome = .error fault → Reported start history fault := by
  induction looks generalizing waits past with
  | zero => exact absurd hlooks (Nat.not_lt_zero waits)
  | succ looks ih =>
      refine makes_bind ((anyAlive_makes hpunctual.answers pids).mono ?_)
      rintro _ asked ⟨hinstant, alive, rfl, hruns⟩
      have hasked := hinstant.proceeds hpast
      rw [← hinstant.now_eq hpunctual] at hwaits
      cases alive with
      | false => exact makes_pure ⟨hasked.mono (Nat.zero_le waits), by simp⟩
      | true =>
          refine makes_bind (makes_askMachine ?_)
          dsimp only
          split
          · rename_i hleft
            obtain ⟨pid, hpid, hruns⟩ := hruns rfl
            obtain ⟨target, htarget, rfl, hagreed⟩ := hpids pid hpid
            obtain ⟨fewer, rfl, hless⟩ := intervals_after_wait hleft hwaits
            have hslept := hasked.trans (proceeds_wait hasked.onTime htarget
              (hagreed.extend hasked.longer) hruns hleft)
            set wait := min stopPollInterval (deadline - Machine.now (behind start asked))
            refine makes_bind (sleep_makes wait ?_)
            cases houtcome : (Machine.sleep wait (behind start asked)).1 with
            | error fault =>
                refine ⟨hslept.mono (by omega), ?_⟩
                rintro _ ⟨⟩
                exact ⟨asked, .slept wait, List.prefix_rfl, houtcome⟩
            | ok _ =>
                have hpositive : 0 < wait := lt_min (by decide) hleft
                have hfewer : deadline - Machine.now (behind start (asked ++ [.slept wait])) ≤
                    fewer := by
                  rw [behind_append]
                  exact hless _ (hpunctual.waits wait _ hpositive houtcome).ge
                refine (ih (by omega) hfewer (fun other hother => ?_) hslept.onTime).mono ?_
                · obtain ⟨target, htarget, hsame, hagreed⟩ := hpids other hother
                  exact ⟨target, htarget, hsame, hagreed.extend hslept.longer⟩
                · rintro outcome history ⟨hproceeds, hreported⟩
                  exact ⟨(hslept.trans hproceeds).mono (by omega), hreported⟩
          · exact makes_pure ⟨hasked.mono (Nat.zero_le waits), by simp⟩

/-! ### The budget -/

theorem stopGracefully_makes {targets : List (Nat × String)} {deadline : Rat}
    (hpunctual : Punctual σ) (thread : String) (hstart : Machine.now start ≤ deadline) :
    (stopGracefully thread targets deadline : Act σ Unit).Makes start [] fun outcome history =>
      Proceeds start targets deadline (deadline - Machine.now start).ceil.toNat [] history ∧
        ∀ fault, outcome = .error fault → Reported start history fault := by
  refine makes_bind ((requestStops_makes hpunctual thread throughout_nil).mono ?_)
  rintro (fault | agreed) requested ⟨hproceeds, hrequested⟩
  · refine ⟨hproceeds.mono (Nat.zero_le _), ?_⟩
    rintro _ ⟨⟩
    exact hrequested
  · refine makes_bind (makes_askMachine (makes_bind (makes_get fun world _ => ?_)))
    have hnow := (hpunctual.now_le_deadline hstart hproceeds.onTime).1
    set left := deadline - Machine.now (behind start requested) with hleft
    obtain ⟨hlooks, hwaits⟩ := looksWithin_enough left world.patience
    have hfewer : left.ceil ≤ (deadline - Machine.now start).ceil :=
      Rat.ceil_le_iff.mpr ((sub_le_sub_left hnow deadline).trans Rat.le_ceil)
    refine (awaitExits_makes hpunctual hlooks hwaits hrequested hproceeds.onTime).mono ?_
    rintro outcome history ⟨hwaited, hreported⟩
    refine ⟨(hproceeds.trans hwaited).mono ?_, hreported⟩
    rw [Nat.zero_add]
    exact Int.toNat_le_toNat hfewer

/-- Stopping takes no longer than its budget, since every call in it is on time and the waits are
bounded. -/
theorem stopAll_makes (hpunctual : Punctual σ) (thread : String) (targets : List (Nat × String))
    (timeout : Rat) :
    (stopAll thread targets timeout : Act σ (List Bool)).Makes start []
      (Budgeted start targets timeout) := by
  have hstart : Machine.now start ≤ Machine.now start + max timeout 0 :=
    le_add_of_nonneg_right (le_max_right timeout 0)
  have hgraceful : (if 0 < timeout then
        stopGracefully thread targets (Machine.now start + max timeout 0) else pure () :
          Act σ Unit).Makes start [] fun outcome history =>
      Proceeds start targets (Machine.now start + max timeout 0) (max timeout 0).ceil.toNat []
        history ∧ ∀ fault, outcome = .error fault → Reported start history fault := by
    split
    · simpa using stopGracefully_makes hpunctual thread hstart
    · exact makes_pure ⟨(instant_refl.proceeds throughout_nil).mono (Nat.zero_le _), by simp⟩
  refine makes_bind (makes_askMachine (makes_bind (makes_ensuring ?_)))
  rw [behind_nil, budget_eq_max]
  refine hgraceful.mono ?_
  rintro outcome history ⟨hproceeds, hreported⟩
  refine (killAlive_makes hpunctual.answers _).mono ?_
  rintro _ later ⟨hinstant, stopped, rfl⟩
  have hkilled : Proceeds start targets (Machine.now start + max timeout 0)
      (max timeout 0).ceil.toNat [] later :=
    hproceeds.trans (hinstant.proceeds hproceeds.onTime)
  have hreported : ∀ fault, outcome = .error fault → Reported start later fault :=
    fun fault hfault => (hreported fault hfault).extend hinstant.longer
  cases outcome with
  | error fault => exact hkilled.budgeted hpunctual (by simpa using hreported)
  | ok _ => exact makes_pure (hkilled.budgeted hpunctual (by simp))

/-- Whatever the instances of a deployment do, stopping them takes no more than the budget. -/
theorem stopInstances_makes (hpunctual : Punctual σ) (deployer : Deployer)
    (instances : List Instance) {bound : Rat} (hbound : 0 ≤ bound)
    (hbudget : ∀ budget, stopBudget deployer.settings.shutdownTimeout = .ok budget →
      budget ≤ bound) :
    (stopInstances deployer instances : Act σ Unit).Makes start [] fun _ history =>
      Machine.now (behind start history) ≤ Machine.now start + bound := by
  refine makes_bind ((livingTargets_makes hpunctual.answers instances).mono ?_)
  rintro _ asked ⟨hinstant, targets, rfl⟩
  have hnow : Machine.now (behind start asked) = Machine.now start :=
    hinstant.now_eq hpunctual
  refine makes_bind (makes_ofExcept ?_)
  cases hresult : stopBudget deployer.settings.shutdownTimeout with
  | error fault => simpa [hnow] using hbound
  | ok budget =>
      refine makes_bind ((stopAll_makes hpunctual mainThread targets budget).after.mono ?_)
      rintro outcome _ ⟨calls, rfl, hbudgeted⟩
      have hends : Machine.now (behind start (asked ++ calls)) ≤ Machine.now start + bound := by
        rw [behind_append]
        refine hbudgeted.ends.trans ?_
        rw [hnow]
        exact add_le_add_right (max_le (hbudget budget hresult) hbound) _
      cases outcome with
      | error fault => exact hends
      | ok _ => exact makes_pure hends

/-- Whatever comes behind the stop takes no time, so an undeployment ends within the bound of its
budget. -/
theorem undeploy_makes (hpunctual : Punctual σ) (deployer : Deployer) (id : String) {bound : Rat}
    (hbound : 0 ≤ bound)
    (hbudget : ∀ budget, stopBudget deployer.settings.shutdownTimeout = .ok budget →
      budget ≤ bound) :
    (undeploy deployer id : Act σ Unit).Makes start [] fun _ history =>
      Machine.now (behind start history) ≤ Machine.now start + bound := by
  have hinstances : (instancesOf id : Act σ (List Instance)).Makes start []
      fun _ history => history = [] := by
    refine makes_bind (makes_get fun world _ => ?_)
    dsimp only
    cases world.registry.get? id with
    | none => exact makes_of_still fun _ _ => yields_raise ⟨rfl, rfl, rfl⟩
    | some instances => exact makes_pure rfl
  refine makes_bind (hinstances.mono ?_)
  rintro (fault | instances) _ rfl
  · simpa using hbound
  · refine makes_bind (makes_log _ _ (makes_bind (makes_ensuring ?_)))
    refine (stopInstances_makes hpunctual deployer instances hbound hbudget).mono ?_
    intro outcome stopped hstopped
    refine makes_bind ((killLiving_makes hpunctual.answers instances).mono ?_)
    rintro _ killed ⟨hinstant, rfl⟩
    have hkilled : Machine.now (behind start killed) ≤ Machine.now start + bound := by
      rw [hinstant.now_eq hpunctual]
      exact hstopped
    refine makes_of_still fun _ _ => yields_modify rfl ⟨rfl, rfl, ?_⟩
    cases outcome with
    | error fault => exact hkilled
    | ok _ => exact makes_pure hkilled

/-- However many instances there are and whatever they do, stopping them within a budget keeps to
it: requests get what is left, waits are for living instances that agreed, and the clock does not
pass the deadline. So an undeployment takes no more time than its settings give. -/
theorem stop_within_budget (hpunctual : Punctual σ) (thread : String)
    (targets : List (Nat × String)) (timeout : Rat) (deployer : Deployer) (id : String)
    (world : World σ) :
    ((stopAll thread targets timeout).Yields world fun outcome done after => ∃ calls,
      after.machine = behind world.machine calls ∧ callsIn done = calls.filter Call.isNoted ∧
        Budgeted world.machine targets timeout outcome calls) ∧
    ((∀ budget, stopBudget deployer.settings.shutdownTimeout = .ok budget →
        budget = max (deployer.settings.shutdownTimeout : Rat) 0) →
      (undeploy deployer id).Yields world fun _ _ after => Machine.now after.machine ≤
        Machine.now world.machine + max (deployer.settings.shutdownTimeout : Rat) 0) := by
  constructor
  · refine (stopAll_makes hpunctual thread targets timeout world rfl).mono ?_
    rintro outcome done after ⟨calls, hafter, hdone, hbudgeted⟩
    exact ⟨calls, hafter, hdone, hbudgeted⟩
  · intro hexact
    have hmakes : (undeploy deployer id).Makes world.machine [] _ := undeploy_makes hpunctual
      deployer id (le_max_right (deployer.settings.shutdownTimeout : Rat) 0)
      fun budget hbudget => (hexact budget hbudget).le
    refine (hmakes world rfl).mono ?_
    rintro outcome done after ⟨calls, hafter, -, hends⟩
    rw [hafter]
    exact hends

end Act

/-! ### Exact budgets -/

theorem round53_of_lt {n : Nat} (h : n < Nat.pow 2 53) : Numeral.round53 n = n := by
  have hlog : Nat.log2 n < 53 := by
    rcases Nat.eq_zero_or_pos n with rfl | hpositive
    · decide
    · exact (Nat.log2_lt hpositive.ne').mpr h
  have hexcess : Nat.log2 n - 52 = 0 := Nat.sub_eq_zero_of_le (Nat.le_of_lt_succ hlog)
  simp [Numeral.round53, hexcess, Nat.mod_one]

/-- A setting below the precision of a clock is a budget as it is. -/
theorem stopBudget_of_lt {seconds : Int} (h : seconds < 2 ^ 53) :
    stopBudget seconds = .ok (max (seconds : Rat) 0) := by
  by_cases hnone : seconds ≤ 0
  · rw [stopBudget, if_pos hnone, max_eq_right (by exact_mod_cast hnone)]
  · have hpositive : 0 < seconds := not_le.mp hnone
    have hsmall : seconds.natAbs < Nat.pow 2 53 := by
      have hpow : ((Nat.pow 2 53 : Nat) : Int) = 2 ^ 53 := by decide
      omega
    have hnearest : Numeral.nearestDouble? seconds = some seconds := by
      have hfinite : Nat.pow 2 53 < Nat.pow 2 1024 := by decide +kernel
      rw [Numeral.nearestDouble?, round53_of_lt hsmall]
      simp only [hsmall.trans hfinite, if_true, if_neg (not_lt.mpr hpositive.le)]
      rw [Int.natAbs_of_nonneg hpositive.le]
    rw [stopBudget, if_neg hnone, hnearest, max_eq_left (by exact_mod_cast hpositive.le)]

/-- A machine with a clock. A process exits at the time that is its number, and a request takes half
a second if it is given as much. -/
structure Ticking where
  clock : Rat

instance : Machine Ticking where
  now machine := machine.clock
  sleep seconds machine := (.ok (), ⟨machine.clock + seconds⟩)
  stamp machine := (0, machine)
  draw low _ machine := (low, machine)
  isPortFree _ _ machine := (.ok true, machine)
  exitCode pid machine := (.ok (if pid ≤ machine.clock then some 0 else none), machine)
  kill _ machine := machine
  httpGet _ _ machine := (⟨.ok 200, []⟩, machine)
  httpPost _ timeout machine := (⟨.ok 200, []⟩, ⟨machine.clock + min timeout (1 / 2)⟩)
  launch _ machine := (.ok 1, machine)
  look _ _ := .ok .regular
  mayRead _ _ := true
  resolve path _ := .ok path
  isFile _ _ := .ok true
  makeDirectories _ machine := (.ok (), machine)
  makeDirectory _ _ machine := (.ok (), machine)
  makeTemporary start above machine := (.ok (above.child start), machine)
  removeTree _ machine := machine
  openFile _ machine := (.ok 0, machine)
  readFrom _ _ _ := []

theorem punctual_ticking : Punctual Ticking where
  answers _ _ := rfl
  spans call machine hpositive := by
    cases call with
    | asked pid => exact ⟨le_rfl, (add_zero machine.clock).ge⟩
    | killed pid => exact ⟨le_rfl, (add_zero machine.clock).ge⟩
    | slept seconds => exact ⟨le_add_of_nonneg_right (hpositive rfl).le, le_rfl⟩
    | posted page timeout =>
        have hleast : 0 < min timeout (1 / 2) := lt_min (hpositive rfl) (by decide +kernel)
        exact ⟨le_add_of_nonneg_right hleast.le, add_le_add_right (min_le_left _ _) _⟩
  waits _ _ _ _ := rfl

def Ticking.twoInstances : World Ticking where
  machine := ⟨0⟩
  registry :=
    { published := [("default.app", Rehearsal.twoInstances.zipWith
        (fun i pid => { i with pid }) [2, 9])] }

theorem stop_within_budget_ticking :
    Punctual Ticking ∧
    ((Act.stopAll mainThread [(2, "http://localhost:8080"), (9, "http://localhost:8081")]
        3).Yields Ticking.twoInstances fun outcome done after => ∃ calls,
      after.machine = behind (Ticking.mk 0) calls ∧ callsIn done = calls.filter Call.isNoted ∧
        Budgeted (Ticking.mk 0) [(2, "http://localhost:8080"), (9, "http://localhost:8081")] 3
          outcome calls) ∧
    (Act.undeploy patientDeployer "default.app").Yields Ticking.twoInstances
      fun _ _ after => after.machine.clock ≤ 1 := by
  have hbudget : ∀ budget, stopBudget patientDeployer.settings.shutdownTimeout = .ok budget →
      budget = max (patientDeployer.settings.shutdownTimeout : Rat) 0 := by
    intro budget hok
    rw [stopBudget_of_lt (by decide)] at hok
    cases hok
    rfl
  obtain ⟨hstop, hundeploy⟩ := Act.stop_within_budget punctual_ticking mainThread
    [(2, "http://localhost:8080"), (9, "http://localhost:8081")] 3 patientDeployer "default.app"
    Ticking.twoInstances
  refine ⟨punctual_ticking, hstop, (hundeploy hbudget).mono ?_⟩
  intro outcome done after hends
  exact hends.trans (by decide +kernel)

end AppSupervisor
