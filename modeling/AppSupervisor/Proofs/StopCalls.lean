import AppSupervisor.Deployer
import AppSupervisor.Proofs.Calls

/-!
The calls of the loops in which instances stop.

Where processes answer, a loop asks them one after the other and goes on by the answers. So its
calls and its outcome are known up to these answers, and whatever is to be shown of it is shown of
such calls.
-/

namespace AppSupervisor

variable {σ : Type}

def agreement : Except Fault Int → Except Fault Bool
  | .ok status => .ok (Act.isAccepted status)
  | .error (.http _ _) => .ok false
  | .error fault => .error fault

def lastCalls (look : Nat × Bool) : List Call :=
  if look.2 then [.asked look.1, .killed look.1] else [.asked look.1]

section Answers

variable [Machine σ] (start : σ)

def RunsStill (history : List Call) (pid : Nat) : Prop :=
  ∃ before, history = before ++ [.asked pid] ∧
    (Machine.exitCode pid (behind start before)).1 = .ok none

def Agreed (history : List Call) (target : Nat × String) : Prop :=
  ∃ before timeout status, before ++ [.posted (stopPage target.2) timeout] <+: history ∧
    RunsStill start before target.1 ∧ Act.isAccepted status ∧
    (Machine.httpPost (stopPage target.2) timeout (behind start before)).1.result = .ok status

structure LastLooks (past : List Call) (pids : List Nat) (looks : List (Nat × Bool)) : Prop where
  order : looks.map (·.1) = pids
  shown : ∀ (before rest : List (Nat × Bool)) (pid : Nat) (alive : Bool),
    looks = before ++ (pid, alive) :: rest →
      (alive ↔ RunsStill start (past ++ before.flatMap lastCalls ++ [.asked pid]) pid)

end Answers

theorem agreement_eq_true {answer : Except Fault Int} (h : agreement answer = .ok true) :
    ∃ status, Act.isAccepted status ∧ answer = .ok status := by
  cases answer with
  | ok status => exact ⟨status, by simpa [agreement] using h, rfl⟩
  | error fault => cases fault <;> simp [agreement] at h

theorem agreement_eq_error {answer : Except Fault Int} {fault : Fault}
    (h : agreement answer = .error fault) : answer = .error fault := by
  cases answer with
  | ok status => simp [agreement] at h
  | error cause =>
      cases cause with
      | http kind message => simp [agreement] at h
      | _ =>
          cases h
          rfl

theorem Agreed.extend [Machine σ] {start : σ} {past history : List Call} {target : Nat × String}
    (h : Agreed start past target) (hlonger : past <+: history) : Agreed start history target := by
  obtain ⟨before, timeout, status, hbefore, hrest⟩ := h
  exact ⟨before, timeout, status, hbefore.trans hlonger, hrest⟩

section Looks

theorem runsStill_concat_iff [Machine σ] {start : σ} {past : List Call} {pid : Nat} :
    RunsStill start (past ++ [.asked pid]) pid ↔
      (Machine.exitCode pid (behind start past)).1 = .ok none := by
  refine ⟨?_, fun hruns => ⟨past, rfl, hruns⟩⟩
  rintro ⟨before, hsplit, hruns⟩
  rwa [List.append_cancel_right hsplit]

variable [Machine σ] {start : σ} {past : List Call} {pids : List Nat} {looks : List (Nat × Bool)}

theorem lastLooks_nil : LastLooks start past [] [] where
  order := rfl
  shown before rest pid alive hsplit := by simp at hsplit

theorem LastLooks.cons {pid : Nat} {alive : Bool}
    (halive : alive ↔ RunsStill start (past ++ [.asked pid]) pid)
    (h : LastLooks start (past ++ lastCalls (pid, alive)) pids looks) :
    LastLooks start past (pid :: pids) ((pid, alive) :: looks) where
  order := congrArg (pid :: ·) h.order
  shown before rest other result hsplit := by
    cases before with
    | nil =>
        cases hsplit
        simpa using halive
    | cons look before =>
        rw [List.cons_append, List.cons_eq_cons] at hsplit
        obtain ⟨rfl, hsplit⟩ := hsplit
        rw [List.flatMap_cons, ← List.append_assoc]
        exact h.shown before rest other result hsplit

theorem lastCalls_untimed (looks : List (Nat × Bool)) :
    ∀ call ∈ looks.flatMap lastCalls, call.isTimed = false := by
  intro call hmem
  obtain ⟨look, -, hcall⟩ := List.mem_flatMap.mp hmem
  unfold lastCalls at hcall
  split at hcall
  · simp only [List.mem_cons, List.not_mem_nil, or_false] at hcall
    rcases hcall with rfl | rfl <;> rfl
  · rw [List.mem_singleton.mp hcall]
    rfl

/-- While processes are asked, the clock goes as it goes for each of them. -/
theorem now_le_asked (hsteady : ∀ pid ∈ pids, ∀ machine : σ,
      Machine.now machine ≤ Machine.now (Machine.exitCode pid machine).2) (machine : σ) :
    Machine.now machine ≤ Machine.now (behind machine (pids.map .asked)) := by
  induction pids generalizing machine with
  | nil => exact Rat.le_refl
  | cons pid rest ih =>
      obtain ⟨hfirst, hrest⟩ := List.forall_mem_cons.mp hsteady
      rw [List.map_cons, behind_cons]
      exact Rat.le_trans (hfirst machine) (ih hrest _)

end Looks

namespace Act

variable [Machine σ] {start : σ} {past : List Call} {pids : List Nat}

theorem isAlive_answers {pid : Nat} {post : Except Fault Bool → List Call → Prop}
    (hanswers : ∀ machine : σ, (Machine.exitCode pid machine).1.isOk)
    (h : ∀ alive : Bool, (alive ↔ RunsStill start (past ++ [.asked pid]) pid) →
      post (.ok alive) (past ++ [.asked pid])) :
    (isAlive pid : Act σ Bool).Makes start past post := by
  refine isAlive_makes pid ?_
  have hanswer := hanswers (behind start past)
  cases hcode : (Machine.exitCode pid (behind start past)).1 with
  | error fault => simp [hcode, Except.isOk, Except.toBool] at hanswer
  | ok code? =>
      refine h code?.isNone ?_
      rw [runsStill_concat_iff, hcode, Option.isNone_iff_eq_none]
      simp

/-- Processes are asked up to the first that runs. -/
theorem anyAlive_asks
    (hanswers : ∀ pid ∈ pids, ∀ machine : σ, (Machine.exitCode pid machine).1.isOk) :
    (anyAlive pids : Act σ Bool).Makes start past fun outcome history => ∃ asked alive,
      asked <+: pids ∧ history = past ++ asked.map .asked ∧ outcome = .ok alive ∧
        (alive → ∃ pid ∈ pids, RunsStill start history pid) := by
  induction pids generalizing past with
  | nil => exact makes_pure ⟨[], false, List.prefix_rfl, by simp⟩
  | cons pid rest ih =>
      obtain ⟨hfirst, hrest⟩ := List.forall_mem_cons.mp hanswers
      refine makes_bind (isAlive_answers hfirst fun alive halive => ?_)
      cases alive with
      | true =>
          have hone : [pid] <+: pid :: rest := List.prefix_append [pid] rest
          exact makes_pure ⟨[pid], true, hone, rfl, rfl, fun _ => ⟨pid, by simp, halive.mp rfl⟩⟩
      | false =>
          refine (ih hrest).mono ?_
          rintro _ _ ⟨asked, alive, hasked, rfl, rfl, hruns⟩
          refine ⟨pid :: asked, alive, List.prefix_cons_inj pid |>.mpr hasked, by simp, rfl, ?_⟩
          intro halive
          obtain ⟨other, hother, hruns⟩ := hruns halive
          exact ⟨other, List.mem_cons_of_mem pid hother, hruns⟩

theorem killAlive_looks
    (hanswers : ∀ pid ∈ pids, ∀ machine : σ, (Machine.exitCode pid machine).1.isOk) :
    (killAlive pids : Act σ (List Bool)).Makes start past fun outcome history => ∃ looks,
      history = past ++ looks.flatMap lastCalls ∧ LastLooks start past pids looks ∧
        outcome = .ok (looks.map (!·.2)) := by
  induction pids generalizing past with
  | nil => exact makes_pure ⟨[], by simp, lastLooks_nil, rfl⟩
  | cons pid rest ih =>
      obtain ⟨hfirst, hrest⟩ := List.forall_mem_cons.mp hanswers
      -- the other processes, behind what is done about this one
      have hothers : ∀ alive : Bool, (alive ↔ RunsStill start (past ++ [.asked pid]) pid) → (do
          let others ← killAlive rest
          return (!alive) :: others : Act σ (List Bool)).Makes start
            (past ++ lastCalls (pid, alive)) fun outcome history => ∃ looks,
              history = past ++ looks.flatMap lastCalls ∧ LastLooks start past (pid :: rest) looks ∧
                outcome = .ok (looks.map (!·.2)) := by
        intro alive halive
        refine makes_bind ((ih hrest).mono ?_)
        rintro _ history ⟨looks, rfl, hlooks, rfl⟩
        exact makes_pure ⟨(pid, alive) :: looks, by simp, hlooks.cons halive, rfl⟩
      refine makes_bind (isAlive_answers hfirst fun alive halive => ?_)
      cases alive with
      | true =>
          refine makes_bind (makes_log _ _ (makes_bind (kill_makes pid ?_)))
          rw [List.append_assoc]
          exact hothers true halive
      | false => exact hothers false halive

/-- Every instance is looked at once more, and killed if it runs. -/
theorem killLiving_looks {instances : List Instance}
    (hanswers : ∀ i ∈ instances, ∀ machine : σ, (Machine.exitCode i.pid machine).1.isOk) :
    (killLiving instances : Act σ Unit).Makes start past fun outcome history => ∃ looks,
      history = past ++ looks.flatMap lastCalls ∧
        LastLooks start past (instances.map (·.pid)) looks ∧ outcome = .ok () := by
  induction instances generalizing past with
  | nil => exact makes_pure ⟨[], by simp, lastLooks_nil, rfl⟩
  | cons i rest ih =>
      obtain ⟨hfirst, hrest⟩ := List.forall_mem_cons.mp hanswers
      have hothers : ∀ alive : Bool, (alive ↔ RunsStill start (past ++ [.asked i.pid]) i.pid) →
          (killLiving rest : Act σ Unit).Makes start (past ++ lastCalls (i.pid, alive))
            fun outcome history => ∃ looks, history = past ++ looks.flatMap lastCalls ∧
              LastLooks start past ((i :: rest).map (·.pid)) looks ∧ outcome = .ok () := by
        intro alive halive
        refine (ih hrest).mono ?_
        rintro _ history ⟨looks, rfl, hlooks, rfl⟩
        exact ⟨(i.pid, alive) :: looks, by simp, hlooks.cons halive, rfl⟩
      refine makes_bind (isAlive_answers hfirst fun alive halive => ?_)
      cases alive with
      | true =>
          refine makes_bind (kill_makes i.pid ?_)
          rw [List.append_assoc]
          exact hothers true halive
      | false => exact makes_bind (makes_pure (hothers false halive))

/-- All instances are asked, and those that run are targets. -/
theorem livingTargets_asks {instances : List Instance}
    (hanswers : ∀ i ∈ instances, ∀ machine : σ, (Machine.exitCode i.pid machine).1.isOk) :
    (livingTargets instances : Act σ (List (Nat × String))).Makes start past
      fun outcome history => history = past ++ instances.map (.asked ·.pid) ∧
        ∃ targets, outcome = .ok targets ∧ targets ⊆ instances.map fun i => (i.pid, i.baseUrl) := by
  induction instances generalizing past with
  | nil => exact makes_pure ⟨by simp, [], rfl, List.Subset.refl _⟩
  | cons i rest ih =>
      obtain ⟨hfirst, hrest⟩ := List.forall_mem_cons.mp hanswers
      refine makes_bind (isAlive_answers hfirst fun alive _ => makes_bind ((ih hrest).mono ?_))
      rintro _ _ ⟨rfl, others, rfl, hothers⟩
      refine makes_pure ⟨by simp, _, rfl, ?_⟩
      have hwider : others ⊆ (i :: rest).map fun i => (i.pid, i.baseUrl) :=
        List.subset_cons_of_subset _ hothers
      cases alive with
      | true => exact List.cons_subset.mpr ⟨by simp, hwider⟩
      | false => exact hwider

theorem requestStop_posts {post : Except Fault Bool → List Call → Prop} (thread baseUrl : String)
    (timeout : Rat)
    (h : post (agreement (Machine.httpPost (stopPage baseUrl) timeout (behind start past)).1.result)
      (past ++ [.posted (stopPage baseUrl) timeout])) :
    (requestStop thread baseUrl timeout : Act σ Bool).Makes start past post := by
  refine makes_bind (sessionOf_makes thread fun session => makes_bind_post session _ timeout ?_)
  split
  · rename_i status hstatus
    rw [hstatus, agreement] at h
    cases haccepted : isAccepted status with
    | true => exact makes_pure (haccepted ▸ h)
    | false => exact makes_bind (makes_log _ _ (makes_pure (haccepted ▸ h)))
  · rename_i kind message hfault
    rw [hfault, agreement] at h
    exact makes_bind (makes_log _ _ (makes_pure h))
  · rename_i fault hother hfault
    rw [hfault] at h
    cases fault with
    | http kind message => exact absurd rfl (hother kind message)
    | _ => exact makes_throw h

/-- Targets are passed by if they do not run, and requested otherwise, as long as there is time. An
invariant speaks of the targets that are left and of the calls up to there. -/
theorem requestStops_rounds {I : List (Nat × String) → List Call → Prop}
    {F : Fault → List Call → Prop} {deadline : Rat} {part : List (Nat × String)}
    (thread : String)
    (hanswers : ∀ target ∈ part, ∀ machine : σ, (Machine.exitCode target.1 machine).1.isOk)
    (hpassed : ∀ (target : Nat × String) rest history, I (target :: rest) history →
      I rest (history ++ [.asked target.1]))
    (hposted : ∀ (target : Nat × String) rest history timeout, I (target :: rest) history →
      RunsStill start (history ++ [.asked target.1]) target.1 →
      timeout = deadline - Machine.now (behind start history) → 0 < timeout →
      match agreement (Machine.httpPost (stopPage target.2) timeout
          (behind start (history ++ [.asked target.1]))).1.result with
      | .ok _ => I rest (history ++ [.asked target.1] ++ [.posted (stopPage target.2) timeout])
      | .error fault =>
          F fault (history ++ [.asked target.1] ++ [.posted (stopPage target.2) timeout]))
    (hpast : I part past) :
    (requestStops thread deadline part : Act σ (List Nat)).Makes start past
      fun outcome history => match outcome with
      | .ok agreed => (∃ rest, I rest history) ∧ past <+: history ∧
          ∀ pid ∈ agreed, ∃ target ∈ part, target.1 = pid ∧ Agreed start history target
      | .error fault => F fault history := by
  induction part generalizing past with
  | nil => exact makes_pure ⟨⟨[], hpast⟩, List.prefix_rfl, by simp⟩
  | cons target rest ih =>
      obtain ⟨hfirst, hothers⟩ := List.forall_mem_cons.mp hanswers
      -- the rest of the targets, behind the answer of this one
      have hrest : ∀ (agreed : Bool) between, past <+: between → I rest between →
          (agreed → Agreed start between target) → (do
            let others ← requestStops thread deadline rest
            return if agreed then target.1 :: others else others : Act σ (List Nat)).Makes start
              between fun outcome history => match outcome with
              | .ok agreed => (∃ rest, I rest history) ∧ past <+: history ∧
                  ∀ pid ∈ agreed, ∃ other ∈ target :: rest, other.1 = pid ∧
                    Agreed start history other
              | .error fault => F fault history := by
        intro agreed between hlonger hbetween hagreed
        refine makes_bind ((ih hothers hbetween).mono ?_)
        rintro (fault | others) history hend
        · exact hend
        · obtain ⟨hinv, hmore, hothers⟩ := hend
          refine makes_pure ⟨hinv, hlonger.trans hmore, fun pid hpid => ?_⟩
          have hother (h : pid ∈ others) : ∃ other ∈ target :: rest, other.1 = pid ∧
              Agreed start history other := by
            obtain ⟨other, hmem, hother⟩ := hothers pid h
            exact ⟨other, List.mem_cons_of_mem target hmem, hother⟩
          cases agreed with
          | false => exact hother hpid
          | true =>
              rcases List.mem_cons.mp hpid with rfl | hmem
              · exact ⟨target, by simp, rfl, (hagreed rfl).extend hmore⟩
              · exact hother hmem
      refine makes_bind (makes_askMachine ?_)
      dsimp only
      split
      · exact makes_pure ⟨⟨_, hpast⟩, List.prefix_rfl, by simp⟩
      · rename_i htime
        refine makes_bind (isAlive_answers hfirst fun alive halive => ?_)
        have hasked : past <+: past ++ [.asked target.1] := List.prefix_append _ _
        cases alive with
        | false =>
            exact makes_bind (makes_pure (hrest false _ hasked (hpassed target rest past hpast)
              (by simp)))
        | true =>
            have hruns := halive.mp rfl
            have hnext := hposted target rest past _ hpast hruns rfl (Rat.not_le.mp htime)
            refine makes_bind (requestStop_posts thread target.2 _ ?_)
            split at hnext
            · rename_i agreed hagreement
              rw [hagreement]
              refine hrest agreed _ (hasked.trans (List.prefix_append _ _)) hnext ?_
              rintro rfl
              obtain ⟨status, haccepted, hstatus⟩ := agreement_eq_true hagreement
              exact ⟨_, _, status, List.prefix_rfl, hruns, haccepted, hstatus⟩
            · rename_i fault hagreement
              rw [hagreement]
              exact hnext

end Act

end AppSupervisor
