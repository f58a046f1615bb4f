import AppSupervisor.Proofs.Rounding
import AppSupervisor.Proofs.StopBudget

/-!
When an undeployment returns.

Suppose that the processes of a deployment answer, that its stop pages fail only as the network
does, and that no wait is cut short. Then nothing goes wrong while the instances stop, and what is
left is the deadline: a setting that no double-precision number is near to gives none. So an
undeployment fails exactly from that setting on, and the deployment is stopped and forgotten all
the same.
-/

namespace AppSupervisor

variable {σ : Type}

/-- A process answers whenever it is asked, and the clock does not go back meanwhile. -/
structure Answering (σ : Type) [Machine σ] (pid : Nat) : Prop where
  answers : ∀ machine : σ, (Machine.exitCode pid machine).1.isOk
  steady : ∀ machine : σ, Machine.now machine ≤ Machine.now (Machine.exitCode pid machine).2

structure Replying (σ : Type) [Machine σ] (budget : Rat) (baseUrl : String) : Prop where
  replies : ∀ (timeout : Rat) (machine : σ) (fault : Fault), 0 < timeout → timeout ≤ budget →
    (Machine.httpPost (stopPage baseUrl) timeout machine).1.result = .error fault →
      ∃ kind message, fault = .http kind message
  steady : ∀ (timeout : Rat) (machine : σ), 0 < timeout → timeout ≤ budget →
    Machine.now machine ≤ Machine.now (Machine.httpPost (stopPage baseUrl) timeout machine).2

structure Cooperative (σ : Type) [Machine σ] (seconds : Int) (i : Instance) : Prop
    extends Answering σ i.pid where
  replying : ∀ budget, stopBudget seconds = .ok budget → Replying σ budget i.baseUrl

def WaitsOut (σ : Type) [Machine σ] : Prop :=
  ∀ (seconds : Rat) (machine : σ), 0 < seconds → seconds ≤ stopPollInterval →
    (Machine.sleep seconds machine).1 = .ok () ∧
      Machine.now machine + seconds ≤ Machine.now (Machine.sleep seconds machine).2

abbrev Instance.target (i : Instance) : Nat × String := (i.pid, i.baseUrl)

theorem integerTooLarge_of_stopBudget {seconds : Int} {fault : Fault}
    (h : stopBudget seconds = .error fault) : fault = .accident .integerTooLarge := by
  unfold stopBudget at h
  split at h
  · cases h
  · split at h
    · cases h
    · cases h
      rfl

/-- The settings that give a budget. -/
theorem stopBudget_isOk_iff {seconds : Int} :
    (∃ budget, stopBudget seconds = .ok budget) ↔ seconds < Numeral.doubleLimit := by
  have hlimit := Numeral.doubleLimit_pos
  by_cases hnone : seconds ≤ 0
  · have hless : seconds < Numeral.doubleLimit := by omega
    exact iff_of_true ⟨0, by rw [stopBudget, if_pos hnone]⟩ hless
  · have habs : seconds.natAbs < Numeral.doubleLimit ↔ seconds < Numeral.doubleLimit := by omega
    rw [← habs, ← Numeral.nearestDouble?_isSome_iff]
    unfold stopBudget
    rw [if_neg hnone]
    cases Numeral.nearestDouble? seconds with
    | none => simp
    | some nearest => simp

structure WithinBudget [Machine σ] (start : σ) (deadline budget : Rat)
    (rest : List (Nat × String)) (history : List Call) : Prop where
  answering : ∀ target ∈ rest, Answering σ target.1
  replying : ∀ target ∈ rest, Replying σ budget target.2
  left : deadline - Machine.now (behind start history) ≤ budget

section WithinBudget

variable [Machine σ] {start : σ} {deadline budget : Rat} {target : Nat × String}
  {rest : List (Nat × String)} {history : List Call}

theorem WithinBudget.asked (h : WithinBudget start deadline budget (target :: rest) history) :
    WithinBudget start deadline budget rest (history ++ [.asked target.1]) where
  answering := (List.forall_mem_cons.mp h.answering).2
  replying := (List.forall_mem_cons.mp h.replying).2
  left := by
    rw [behind_append]
    exact (sub_le_sub_left ((h.answering target (by simp)).steady _) deadline).trans h.left

theorem WithinBudget.posted (h : WithinBudget start deadline budget (target :: rest) history)
    (hpositive : 0 < deadline - Machine.now (behind start history)) :
    WithinBudget start deadline budget rest (history ++ [.asked target.1] ++
      [.posted (stopPage target.2) (deadline - Machine.now (behind start history))]) where
  answering := h.asked.answering
  replying := h.asked.replying
  left := by
    have hsteady := (h.replying target (by simp)).steady _
      (behind start (history ++ [.asked target.1])) hpositive h.left
    rw [behind_append]
    exact (sub_le_sub_left hsteady deadline).trans h.asked.left

end WithinBudget

namespace Act

variable [Machine σ] {start : σ} {past : List Call}

/-! ### Questions and kills -/

theorem anyAlive_answered {pids : List Nat} (h : ∀ pid ∈ pids, Answering σ pid) :
    (anyAlive pids : Act σ Bool).Makes start past fun outcome history =>
      (∃ alive, outcome = .ok alive) ∧
        Machine.now (behind start past) ≤ Machine.now (behind start history) := by
  refine (anyAlive_asks fun pid hpid => (h pid hpid).answers).mono ?_
  rintro _ _ ⟨asked, alive, hasked, rfl, rfl, -⟩
  rw [behind_append]
  exact ⟨⟨alive, rfl⟩, now_le_asked (fun pid hpid => (h pid (hasked.subset hpid)).steady) _⟩

theorem killAlive_answered {pids : List Nat} (h : ∀ pid ∈ pids, Answering σ pid) :
    (killAlive pids : Act σ (List Bool)).Makes start past fun outcome _ =>
      ∃ stopped, outcome = .ok stopped := by
  refine (killAlive_looks fun pid hpid => (h pid hpid).answers).mono ?_
  rintro _ _ ⟨looks, -, -, rfl⟩
  exact ⟨_, rfl⟩

theorem killLiving_answered {instances : List Instance}
    (h : ∀ i ∈ instances, Answering σ i.pid) :
    (killLiving instances : Act σ Unit).Makes start past fun outcome _ => outcome = .ok () := by
  refine (killLiving_looks fun i hi => (h i hi).answers).mono ?_
  rintro _ _ ⟨looks, -, -, rfl⟩
  rfl

/-! ### Requests -/

theorem requestStops_replied {budget : Rat} {targets : List (Nat × String)}
    (hanswering : ∀ target ∈ targets, Answering σ target.1)
    (hreplying : ∀ target ∈ targets, Replying σ budget target.2) (thread : String)
    {deadline : Rat} (hleft : deadline - Machine.now (behind start past) ≤ budget) :
    (requestStops thread deadline targets : Act σ (List Nat)).Makes start past fun outcome _ =>
      ∃ agreed, outcome = .ok agreed ∧ agreed ⊆ targets.map (·.1) := by
  refine (requestStops_rounds (I := WithinBudget start deadline budget)
    (F := fun _ _ => False) thread (fun target htarget => (hanswering target htarget).answers)
    (fun _ _ _ h => h.asked) ?_ ⟨hanswering, hreplying, hleft⟩).mono ?_
  · rintro target rest history timeout h - rfl hpositive
    have hpage := h.replying target (by simp)
    split
    · exact h.posted hpositive
    · rename_i fault hfault
      obtain ⟨kind, message, rfl⟩ :=
        hpage.replies _ _ fault hpositive h.left (agreement_eq_error hfault)
      rw [agreement_eq_error hfault] at hfault
      cases hfault
  · rintro (fault | agreed) history hend
    · exact hend.elim
    · refine ⟨agreed, rfl, fun pid hpid => ?_⟩
      obtain ⟨target, htarget, rfl, -⟩ := hend.2.2 pid hpid
      exact List.mem_map.mpr ⟨target, htarget, rfl⟩

/-! ### Waiting -/

theorem awaitExits_returns (hwaits : WaitsOut σ) {pids : List Nat}
    (hpids : ∀ pid ∈ pids, Answering σ pid) {deadline : Rat} {waits looks : Nat}
    (hlooks : waits < looks) (hleft : deadline - Machine.now (behind start past) ≤ waits) :
    (awaitExits pids deadline looks : Act σ Unit).Makes start past
      fun outcome _ => outcome = .ok () := by
  induction looks generalizing waits past with
  | zero => exact absurd hlooks (Nat.not_lt_zero waits)
  | succ looks ih =>
      refine makes_bind ((anyAlive_answered hpids).mono ?_)
      rintro _ asked ⟨⟨alive, rfl⟩, hasked⟩
      cases alive with
      | false => exact makes_pure rfl
      | true =>
          refine makes_bind (makes_askMachine ?_)
          dsimp only
          split
          · rename_i hpositive
            obtain ⟨fewer, rfl, hless⟩ := intervals_after_wait hpositive
              ((sub_le_sub_left hasked deadline).trans hleft)
            set wait := min stopPollInterval (deadline - Machine.now (behind start asked))
            have hwait : 0 < wait := lt_min (by decide) hpositive
            obtain ⟨hok, hslept⟩ := hwaits wait (behind start asked) hwait (min_le_left _ _)
            have hfewer : deadline - Machine.now (behind start (asked ++ [.slept wait])) ≤
                fewer := by
              rw [behind_append]
              exact hless _ hslept
            refine makes_bind (sleep_makes wait ?_)
            rw [hok]
            exact ih (Nat.lt_of_succ_lt_succ hlooks) hfewer
          · exact makes_pure rfl

theorem stopAll_returns (hwaits : WaitsOut σ) {targets : List (Nat × String)} {timeout : Rat}
    (hanswering : ∀ target ∈ targets, Answering σ target.1)
    (hreplying : ∀ target ∈ targets, Replying σ timeout target.2) (thread : String) :
    (stopAll thread targets timeout : Act σ (List Bool)).Makes start past fun outcome _ =>
      ∃ stopped, outcome = .ok stopped := by
  have hpids : ∀ pid ∈ targets.map (·.1), Answering σ pid := List.forall_mem_map.mpr hanswering
  have hgraceful : ∀ deadline, deadline - Machine.now (behind start past) ≤ timeout →
      (stopGracefully thread targets deadline : Act σ Unit).Makes start past
        fun outcome _ => outcome = .ok () := by
    intro deadline hdeadline
    refine makes_bind ((requestStops_replied hanswering hreplying thread hdeadline).mono ?_)
    rintro _ requested ⟨agreed, rfl, hagreed⟩
    refine makes_bind (makes_askMachine (makes_bind (makes_get fun world _ => ?_)))
    obtain ⟨hlooks, hleft⟩ := looksWithin_enough
      (deadline - Machine.now (behind start requested)) world.patience
    exact awaitExits_returns hwaits (fun pid hpid => hpids pid (hagreed hpid)) hlooks hleft
  refine makes_bind (makes_askMachine (makes_bind (makes_ensuring ?_)))
  have hfirst : (if 0 < timeout then stopGracefully thread targets
      (Machine.now (behind start past) + if 0 < timeout then timeout else 0)
      else pure () : Act σ Unit).Makes start past fun outcome _ => outcome = .ok () := by
    split
    · exact hgraceful _ (add_sub_cancel_left _ timeout).le
    · exact makes_pure rfl
  refine hfirst.mono ?_
  rintro _ history rfl
  refine (killAlive_answered hpids).mono ?_
  rintro _ later ⟨stopped, rfl⟩
  exact makes_pure ⟨stopped, rfl⟩

theorem stopInstances_returns (hwaits : WaitsOut σ) (deployer : Deployer)
    {instances : List Instance}
    (h : ∀ i ∈ instances, Cooperative σ deployer.settings.shutdownTimeout i) :
    (stopInstances deployer instances : Act σ Unit).Makes start past fun outcome _ =>
      outcome = (stopBudget deployer.settings.shutdownTimeout).map fun _ => () := by
  refine makes_bind ((livingTargets_asks fun i hi => (h i hi).answers).mono ?_)
  rintro _ asked ⟨-, targets, rfl, htargets⟩
  refine makes_bind (makes_ofExcept ?_)
  cases hbudget : stopBudget deployer.settings.shutdownTimeout with
  | error fault => rfl
  | ok budget =>
      have hinstance : ∀ target ∈ targets, ∃ i ∈ instances, i.target = target :=
        fun target htarget => List.mem_map.mp (htargets htarget)
      have hanswering : ∀ target ∈ targets, Answering σ target.1 := by
        intro target htarget
        obtain ⟨i, hi, rfl⟩ := hinstance target htarget
        exact (h i hi).toAnswering
      have hreplying : ∀ target ∈ targets, Replying σ budget target.2 := by
        intro target htarget
        obtain ⟨i, hi, rfl⟩ := hinstance target htarget
        exact (h i hi).replying budget hbudget
      refine makes_bind ((stopAll_returns hwaits hanswering hreplying mainThread).mono ?_)
      rintro _ history ⟨stopped, rfl⟩
      exact makes_pure rfl

/-- With processes that answer and pages that reply, an undeployment returns unless its setting is
too large for a budget. -/
theorem undeploy_returns (hwaits : WaitsOut σ) (deployer : Deployer) {id : String}
    {instances : List Instance} {world : World σ}
    (hget : world.registry.get? id = some instances)
    (h : ∀ i ∈ instances, Cooperative σ deployer.settings.shutdownTimeout i) :
    (undeploy deployer id).Yields world fun outcome _ _ =>
      outcome = (stopBudget deployer.settings.shutdownTimeout).map fun _ => () := by
  have hanswering : ∀ i ∈ instances, Answering σ i.pid := fun i hi => (h i hi).toAnswering
  refine yields_bind ((instancesOf_yields hget).mono ?_)
  rintro _ _ _ ⟨rfl, -, rfl⟩
  refine yields_bind_note (yields_bind (yields_ensuring ?_))
  have hstop : (stopInstances deployer instances : Act σ Unit).Makes world.machine [] _ :=
    stopInstances_returns hwaits deployer h
  refine (hstop { world with journal := .logged .info s!"Undeploying {id}" :: world.journal }
    rfl).mono ?_
  rintro outcome _ between ⟨_, _, _, rfl⟩
  have hkill : (killLiving instances : Act σ Unit).Makes between.machine [] _ :=
    killLiving_answered hanswering
  refine yields_bind ((hkill between rfl).mono ?_)
  rintro _ _ killed ⟨_, _, _, rfl⟩
  refine yields_modify rfl ?_
  cases stopBudget deployer.settings.shutdownTimeout with
  | error fault => rfl
  | ok budget => exact yields_pure rfl

/-- Where processes answer, stop pages fail only as the network does and waits are not cut short,
an undeployment returns exactly if its setting is below the least whole number that is rounded
beyond the double-precision numbers. From that number on it fails for this reason alone. In both
cases the deployment is forgotten, and each of its instances is killed or seen to have exited. -/
theorem undeploy_returns_iff (hwaits : WaitsOut σ) (deployer : Deployer) {id : String}
    {instances : List Instance} {world : World σ}
    (hget : world.registry.get? id = some instances)
    (h : ∀ i ∈ instances, Cooperative σ deployer.settings.shutdownTimeout i) :
    (undeploy deployer id).Yields world fun outcome done after =>
      (outcome = .ok () ↔ deployer.settings.shutdownTimeout < Numeral.doubleLimit) ∧
      (∀ fault, outcome = .error fault → fault = .accident .integerTooLarge) ∧
      id ∉ after.registry.ids ∧ ∀ i ∈ instances, Ended done i.pid := by
  have hanswering : ∀ i ∈ instances, Answering σ i.pid := fun i hi => (h i hi).toAnswering
  have hpass : closingPass deployer id instances world = .ok () := by
    have hkill : (killLiving instances : Act σ Unit).Makes
        (closingWorld deployer id instances world).machine [] _ := killLiving_answered hanswering
    obtain ⟨_, _, _, _, _, hok⟩ := hkill (closingWorld deployer id instances world) rfl
    exact hok
  have hends := undeploy_yields deployer hget
  refine ((undeploy_returns hwaits deployer hget h).and hends).mono ?_
  rintro outcome done after ⟨rfl, hdone⟩
  simp only [hpass] at hdone
  obtain ⟨hended, hgone, -⟩ := hdone
  rw [← stopBudget_isOk_iff]
  refine ⟨?_, ?_, Registry.get?_eq_none_iff.mp hgone, hended⟩
  · cases stopBudget deployer.settings.shutdownTimeout with
    | error fault => simp [Except.map]
    | ok budget => simp [Except.map]
  · intro fault hfault
    cases hbudget : stopBudget deployer.settings.shutdownTimeout with
    | ok budget =>
        rw [hbudget] at hfault
        cases hfault
    | error cause =>
        rw [hbudget] at hfault
        cases hfault
        exact integerTooLarge_of_stopBudget hbudget

end Act

/-! ### Two instances on a ticking machine -/

theorem waitsOut_ticking : WaitsOut Ticking := fun _ _ _ _ => ⟨rfl, le_rfl⟩

theorem cooperative_ticking (seconds : Int) (i : Instance) : Cooperative Ticking seconds i where
  answers _ := rfl
  steady _ := le_rfl
  replying _ _ :=
    { replies _ _ _ _ _ hfailed := by cases hfailed
      steady timeout machine hpositive _ := by
        have htaken : 0 < min timeout (1 / 2) := lt_min hpositive (by decide +kernel)
        exact le_add_of_nonneg_right htaken.le }

theorem undeploy_returns_ticking :
    WaitsOut Ticking ∧ (∀ seconds i, Cooperative Ticking seconds i) ∧
    patientDeployer.settings.shutdownTimeout < Numeral.doubleLimit ∧
    (Act.undeploy patientDeployer "default.app").Yields Ticking.twoInstances
      fun outcome _ after => outcome = .ok () ∧ "default.app" ∉ after.registry.ids := by
  have hlimit : patientDeployer.settings.shutdownTimeout < Numeral.doubleLimit := by decide +kernel
  refine ⟨waitsOut_ticking, cooperative_ticking, hlimit, ?_⟩
  refine (Act.undeploy_returns_iff waitsOut_ticking patientDeployer rfl
    fun i _ => cooperative_ticking _ i).mono ?_
  rintro outcome done after ⟨hreturns, -, hgone, -⟩
  exact ⟨hreturns.mpr hlimit, hgone⟩

/-- Every whole number is accepted as a setting. -/
theorem Settings.read_shutdownTimeout (host : HostDefaults) (seconds : Int) :
    ∃ settings, Settings.read host (.map [(.text "shutdown_timeout", .int seconds)]) =
      .ok settings ∧ settings.shutdownTimeout = seconds :=
  ⟨_, rfl, rfl⟩

/-- With an accepted setting of 401 digits, two instances that would exit are not waited for: their
undeployment fails. -/
theorem undeploy_hugeTimeout_fails :
    ∃ settings, Settings.read ⟨"/tmp", "python"⟩
        (.map [(.text "shutdown_timeout", .int (10 ^ 400))]) = .ok settings ∧
      WaitsOut Ticking ∧ (∀ seconds i, Cooperative Ticking seconds i) ∧
      "default.app" ∈ Ticking.twoInstances.registry.ids ∧
      ¬(Act.undeploy ⟨settings, []⟩ "default.app").Yields Ticking.twoInstances
        fun outcome _ _ => outcome = .ok () := by
  obtain ⟨settings, hread, htimeout⟩ :=
    Settings.read_shutdownTimeout ⟨"/tmp", "python"⟩ (10 ^ 400)
  refine ⟨settings, hread, waitsOut_ticking, cooperative_ticking, by decide, ?_⟩
  rintro ⟨_, _, hok⟩
  obtain ⟨instances, hget⟩ : ∃ instances,
      Ticking.twoInstances.registry.get? "default.app" = some instances := ⟨_, rfl⟩
  obtain ⟨_, _, hbudget⟩ := Act.undeploy_returns waitsOut_ticking ⟨settings, []⟩ hget
    fun i _ => cooperative_ticking _ i
  have hlarge : ¬(10 ^ 400 : Int) < Numeral.doubleLimit := by decide +kernel
  refine hlarge (htimeout ▸ stopBudget_isOk_iff.mp ?_)
  rw [hok] at hbudget
  cases hresult : stopBudget settings.shutdownTimeout with
  | ok budget => exact ⟨budget, rfl⟩
  | error fault =>
      rw [hresult] at hbudget
      cases hbudget

end AppSupervisor
