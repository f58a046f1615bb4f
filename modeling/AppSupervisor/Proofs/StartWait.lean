import AppSupervisor.Proofs.StopBudget
import AppSupervisor.Proofs.Watching
import AppSupervisor.Rehearsal.Deployer

/-!
How long a run waits for its deployment to start.

The wait alternates looks and pauses of one second. A pause begins only where the look in front of
it has found the deployment still deploying and has come before the deadline. As the clock gains a
second with each pause, no more pauses fit in front of the deadline than the timeout has seconds,
the last one counted in full. This bounds the rounds of the loop, so that a run which may look that
often never gives up.
-/

namespace AppSupervisor

open AppSupervisor.CommandLine

variable {σ : Type} [Machine σ]

/-- A clock that does not go back while a deployment is looked at, and that gains a second with a
pause. -/
structure KeepsPace (handle : DeployerHandle σ) (id : String) : Prop where
  looks : ∀ {world after : World σ} {status : AppStatus},
    (handle.status id).perform world = (.ok status, after) →
      Machine.now world.machine ≤ Machine.now after.machine
  pauses : ∀ {machine after : σ}, Machine.sleep pollInterval machine = (.ok (), after) →
    Machine.now machine + 1 ≤ Machine.now after

def Turn.isPause : Turn → Bool
  | .pause _ _ => true
  | _ => false

def Turn.isLook : Turn → Bool
  | .status _ _ _ => true
  | _ => false

abbrev pausesIn (turns : List Turn) : Nat := turns.countP Turn.isPause

abbrev looksIn (turns : List Turn) : Nat := turns.countP Turn.isLook

theorem pausesIn_append (turns more : List Turn) :
    pausesIn (turns ++ more) = pausesIn turns + pausesIn more := List.countP_append

theorem looksIn_append (turns more : List Turn) :
    looksIn (turns ++ more) = looksIn turns + looksIn more := List.countP_append

structure FindsDeploying (handle : DeployerHandle σ) (id : String) (deadline : Rat)
    (world : World σ) (status : AppStatus) (looked : World σ) : Prop where
  look : (handle.status id).perform world = (.ok status, looked)
  deploying : status.state = .deploying
  early : Machine.now looked.machine < deadline

/-- From one world to another there were so many rounds of a look, which finds a deployment still
deploying before the deadline, and a pause right behind it. -/
inductive Rounds (handle : DeployerHandle σ) (id : String) (deadline : Rat) :
    World σ → Nat → List Turn → World σ → Prop
  | start (world : World σ) : Rounds handle id deadline world 0 [] world
  | round {world looked rested final : World σ} {status : AppStatus} {count : Nat}
      {turns : List Turn} (hlook : FindsDeploying handle id deadline world status looked)
      (hpause : (Act.sleep pollInterval).perform looked = (.ok (), rested))
      (hrest : Rounds handle id deadline rested count turns final) :
      Rounds handle id deadline world (count + 1)
        (.status id (.ok status) (Machine.now looked.machine) ::
          .pause pollInterval (.ok ()) :: turns) final

/-- How a wait ends behind its rounds: with a look that finds the deployment started or comes too
late, or with a look or a pause that fails. -/
inductive RoundsEnd (handle : DeployerHandle σ) (id : String) (deadline : Rat) (between : World σ) :
    Except Fault AppStatus → List Turn → World σ → Prop
  | look {status : AppStatus} {after : World σ}
      (hlook : (handle.status id).perform between = (.ok status, after))
      (hlast : status.state = .deploying → deadline ≤ Machine.now after.machine) :
      RoundsEnd handle id deadline between (.ok status)
        [.status id (.ok status) (Machine.now after.machine)] after
  | failedLook {fault : Fault} {after : World σ}
      (hlook : (handle.status id).perform between = (.error fault, after)) :
      RoundsEnd handle id deadline between (.error fault)
        [.status id (.error fault) (Machine.now after.machine)] after
  | failedPause {status : AppStatus} {fault : Fault} {looked after : World σ}
      (hlook : FindsDeploying handle id deadline between status looked)
      (hpause : (Act.sleep pollInterval).perform looked = (.error fault, after)) :
      RoundsEnd handle id deadline between (.error fault)
        [.status id (.ok status) (Machine.now looked.machine),
          .pause pollInterval (.error fault)] after

def WaitsFor (handle : DeployerHandle σ) (id : String) (deadline : Rat) (world : World σ)
    (horizon : Nat) (outcome : Except Fault AppStatus) (turns : List Turn) (after : World σ) :
    Prop :=
  ∃ count rounds between, Rounds handle id deadline world count rounds between ∧
    (count = horizon ∨ ∃ last, turns = rounds ++ last ∧
      RoundsEnd handle id deadline between outcome last after)

section Rounds

variable {handle : DeployerHandle σ} {id : String} {deadline : Rat}
  {world looked rested after : World σ} {status : AppStatus}
  {outcome : Except Fault AppStatus} {turns : List Turn} {horizon : Nat}

theorem RoundsEnd.waitsFor {last : List Turn}
    (h : RoundsEnd handle id deadline world outcome last after) (horizon : Nat) :
    WaitsFor handle id deadline world horizon outcome last after :=
  ⟨0, [], world, .start world, Or.inr ⟨last, rfl, h⟩⟩

/-- One more round in front of a wait. -/
theorem WaitsFor.round (hlook : FindsDeploying handle id deadline world status looked)
    (hpause : (Act.sleep pollInterval).perform looked = (.ok (), rested))
    (h : WaitsFor handle id deadline rested horizon outcome turns after) :
    WaitsFor handle id deadline world (horizon + 1) outcome
      (.status id (.ok status) (Machine.now looked.machine) ::
        .pause pollInterval (.ok ()) :: turns) after := by
  obtain ⟨count, rounds, between, hrounds, hends⟩ := h
  refine ⟨count + 1, _, between, .round hlook hpause hrounds, ?_⟩
  rcases hends with hall | ⟨last, rfl, hlast⟩
  · exact Or.inl (congrArg (· + 1) hall)
  · exact Or.inr ⟨last, rfl, hlast⟩

theorem perform_sleep_eq_ok
    (h : (Act.sleep pollInterval).perform looked = (.ok (), rested)) :
    Machine.sleep pollInterval looked.machine = (.ok (), rested.machine) := by
  rcases hsleep : Machine.sleep pollInterval looked.machine with ⟨outcome, machine⟩
  rw [Act.perform_sleep hsleep] at h
  cases outcome with
  | error fault => cases h
  | ok _ =>
      cases h
      rfl

/-- Each round has one look and one pause. -/
theorem Rounds.counts {count : Nat} {between : World σ}
    (h : Rounds handle id deadline world count turns between) :
    pausesIn turns = count ∧ looksIn turns = count := by
  induction h with
  | start world => exact ⟨rfl, rfl⟩
  | round _ _ _ ih =>
      obtain ⟨hpauses, hlooks⟩ := ih
      constructor
      · rw [pausesIn, List.countP_cons_of_neg (by simp [Turn.isPause]), List.countP_cons_of_pos rfl]
        exact congrArg (· + 1) hpauses
      · rw [looksIn, List.countP_cons_of_pos rfl, List.countP_cons_of_neg (by simp [Turn.isLook])]
        exact congrArg (· + 1) hlooks

/-- A second less leaves one pause less, however much of the last second is left. -/
theorem pauses_succ_le {left later : Rat} (hleft : 0 < left) (hlater : later + 1 ≤ left) :
    later.ceil.toNat + 1 ≤ left.ceil.toNat := by
  have hceil : left ≤ (left.ceil : Rat) := Rat.le_ceil
  have hsome : 0 < left.ceil := by
    have hcast : (0 : Rat) < (left.ceil : Rat) := hleft.trans_le hceil
    exact_mod_cast hcast
  have hless : later.ceil ≤ left.ceil - 1 := by
    rw [Rat.ceil_le_iff]
    push_cast
    linarith
  omega

/-- A look that finds a deployment still deploying leaves time for a pause. -/
theorem FindsDeploying.pauses_pos (hpace : KeepsPace handle id)
    (hlook : FindsDeploying handle id deadline world status looked) :
    0 < (deadline - Machine.now world.machine).ceil.toNat := by
  have hnow : Machine.now world.machine < deadline :=
    (hpace.looks hlook.look).trans_lt hlook.early
  exact Nat.zero_lt_of_lt (pauses_succ_le (sub_pos.mpr hnow) (sub_add_cancel _ 1).le)

theorem RoundsEnd.pausesIn_le (hpace : KeepsPace handle id)
    (h : RoundsEnd handle id deadline world outcome turns after) :
    pausesIn turns ≤ (deadline - Machine.now world.machine).ceil.toNat := by
  cases h with
  | look _ _ => exact Nat.zero_le _
  | failedLook _ => exact Nat.zero_le _
  | failedPause hlook _ => exact hlook.pauses_pos hpace

theorem RoundsEnd.counts (h : RoundsEnd handle id deadline world (.ok status) turns after) :
    looksIn turns = 1 ∧ pausesIn turns = 0 := by
  cases h with
  | look _ _ => exact ⟨rfl, rfl⟩

/-- There are no more rounds than pauses fit in front of the deadline, and a pause behind them needs
one more place. -/
theorem Rounds.count_le {count : Nat} {between : World σ} (hpace : KeepsPace handle id)
    (h : Rounds handle id deadline world count turns between) :
    count + (deadline - Machine.now between.machine).ceil.toNat ≤
      (deadline - Machine.now world.machine).ceil.toNat := by
  induction h with
  | start world => simp
  | @round world looked rested final status count turns hlook hpause _ ih =>
      have hlooked := hpace.looks hlook.look
      have hrested := hpace.pauses (perform_sleep_eq_ok hpause)
      have hearly := hlook.early
      have hfewer : (deadline - Machine.now rested.machine).ceil.toNat + 1 ≤
          (deadline - Machine.now world.machine).ceil.toNat :=
        pauses_succ_le (by linarith) (by linarith)
      omega

end Rounds

namespace Act

theorem sleep_records (seconds : Rat) (world : World σ) :
    Records (sleep seconds) (sleep seconds) world fun outcome turns after =>
      (sleep seconds).perform world = (outcome, after) ∧ turns = [.pause seconds outcome] :=
  (records_sleep fun _ _ => rfl).located

theorem status_records (handle : DeployerHandle σ) (id : String) (world : World σ) :
    Records (handle.recorded.status id) (handle.status id) world fun outcome turns after =>
      (handle.status id).perform world = (outcome, after) ∧
        turns = [.status id outcome (Machine.now after.machine)] :=
  (records_status handle id fun _ _ => rfl).located

/-- The rounds of a wait, with the look in front of it. -/
theorem waitLonger_rounds (handle : DeployerHandle σ) (id : String) {isEarly : Rat → Bool}
    {deadline : Rat} (hdeadline : ∀ moment, isEarly moment ↔ moment < deadline)
    {status : AppStatus} {world looked : World σ}
    (hlook : (handle.status id).perform world = (.ok status, looked)) (looks : Nat) :
    Records (waitLonger handle.recorded id isEarly status looks)
      (waitLonger handle id isEarly status looks) looked fun outcome turns after =>
        WaitsFor handle id deadline world looks outcome
          (.status id (.ok status) (Machine.now looked.machine) :: turns) after := by
  induction looks generalizing status world looked with
  | zero =>
      exact (mirrors_raise _).records ⟨0, [], world, .start world, Or.inl rfl⟩
  | succ looks ih =>
      refine (mirrors_askMachine Machine.now).bind_records ?_ (by rintro _ _ ⟨⟩)
      rintro _ _ ⟨⟩
      refine records_ite (fun hwaits => ?_) fun hwaits => ?_
      · have hfinds : FindsDeploying handle id deadline world status looked := by
          obtain ⟨hstate, hearly⟩ : status.state = .deploying ∧
              isEarly (Machine.now looked.machine) := by
            simpa using hwaits
          exact ⟨hlook, hstate, (hdeadline _).mp hearly⟩
        refine records_bind ((sleep_records pollInterval looked).mono ?_)
        rintro (fault | ⟨⟩) _ rested ⟨hpause, rfl⟩
        · exact (RoundsEnd.failedPause hfinds hpause).waitsFor _
        · refine records_bind ((status_records handle id rested).mono ?_)
          rintro (fault | found) _ next ⟨hnext, rfl⟩
          · exact ((RoundsEnd.failedLook hnext).waitsFor looks).round hfinds hpause
          · refine (ih hnext).mono ?_
            intro outcome turns after hends
            exact hends.round hfinds hpause
      · refine records_pure ((RoundsEnd.look hlook ?_).waitsFor _)
        intro hstate
        by_contra hlate
        exact hwaits (by simp [hstate, (hdeadline _).mpr (not_le.mp hlate)])

/-- The first look stands in front of the loop. -/
theorem waitUntilStarted_waits (handle : DeployerHandle σ) (id : String) {timeout : Float}
    {seconds : Rat} (htimeout : Numeral.Double.ofFloat timeout = .finite seconds) (horizon : Nat)
    (world : World σ) :
    Records (waitUntilStarted handle.recorded id timeout horizon)
      (waitUntilStarted handle id timeout horizon) world fun outcome turns after =>
        WaitsFor handle id (Machine.now world.machine + seconds) world horizon outcome turns
          after := by
  have hdeadline (moment : Rat) : isBefore (Machine.now world.machine) (.ofFloat timeout) moment ↔
      moment < Machine.now world.machine + seconds := by
    rw [htimeout]
    exact decide_eq_true_iff
  refine (mirrors_askMachine Machine.now).bind_records ?_ (by rintro _ _ ⟨⟩)
  rintro _ _ ⟨⟩
  refine records_bind ((status_records handle id world).mono ?_)
  rintro (fault | status) _ looked ⟨hlook, rfl⟩
  · exact (RoundsEnd.failedLook hlook).waitsFor horizon
  · exact waitLonger_rounds handle id hdeadline hlook horizon

/-- With a finite timeout a run waits until it finds its deployment started or until the deadline,
and it makes no more pauses than the timeout has seconds, the last one counted in full. -/
theorem start_wait_tight (handle : DeployerHandle σ) {id : String} {timeout : Float}
    {seconds : Rat} {horizon : Nat} (htimeout : Numeral.Double.ofFloat timeout = .finite seconds)
    (hpace : KeepsPace handle id) (hhorizon : seconds.ceil.toNat < horizon) (world : World σ) :
    Records (waitUntilStarted handle.recorded id timeout horizon)
      (waitUntilStarted handle id timeout horizon) world fun outcome turns after =>
        ∃ count rounds between last, turns = rounds ++ last ∧
          Rounds handle id (Machine.now world.machine + seconds) world count rounds between ∧
          RoundsEnd handle id (Machine.now world.machine + seconds) between outcome last after ∧
          pausesIn turns ≤ seconds.ceil.toNat ∧
          ∀ status, outcome = .ok status → looksIn turns = pausesIn turns + 1 := by
  refine (waitUntilStarted_waits handle id htimeout horizon world).mono ?_
  rintro outcome turns after ⟨count, rounds, between, hrounds, hends⟩
  have hcount := hrounds.count_le hpace
  rw [add_sub_cancel_left] at hcount
  rcases hends with rfl | ⟨last, rfl, hlast⟩
  · omega
  · have hroom := hlast.pausesIn_le hpace
    obtain ⟨hpauses, hlooks⟩ := hrounds.counts
    refine ⟨count, rounds, between, last, rfl, hrounds, hlast, ?_, ?_⟩
    · rw [pausesIn_append]
      omega
    · rintro status rfl
      obtain ⟨hlook, hpause⟩ := hlast.counts
      rw [pausesIn_append, looksIn_append]
      omega

end Act

def Ticking.slowDeployer : DeployerHandle Ticking where
  deploy request := pure request.deploymentId
  status id := do
    Act.onMachine fun machine => ((), ⟨machine.clock + 1 / 4⟩)
    return Rehearsal.statusOf id [.deploying] []
  undeploy _ := pure ()
  shutdown := pure ()

theorem Ticking.keepsPace_slowDeployer (id : String) : KeepsPace slowDeployer id where
  looks hlook := by
    cases hlook
    exact le_add_of_nonneg_right (by decide +kernel)
  pauses hpause := by
    cases hpause
    exact le_rfl

/-- The third look comes too late, after two pauses. -/
theorem start_wait_tight_slow :
    Numeral.Double.ofFloat 2.5 = .finite (5 / 2) ∧
    KeepsPace Ticking.slowDeployer "default.app" ∧
    (5 / 2 : Rat).ceil.toNat < 4 ∧
    Act.Records (Act.waitUntilStarted Ticking.slowDeployer.recorded "default.app" 2.5 4)
      (Act.waitUntilStarted Ticking.slowDeployer "default.app" 2.5 4) { machine := Ticking.mk 0 }
      fun outcome turns _ => pausesIn turns ≤ 3 ∧
        ∀ status, outcome = .ok status → looksIn turns = pausesIn turns + 1 := by
  have htimeout : Numeral.Double.ofFloat 2.5 = .finite (5 / 2) := by decide +kernel
  have hpace := Ticking.keepsPace_slowDeployer "default.app"
  have hceil : (5 / 2 : Rat).ceil.toNat = 3 := by decide +kernel
  have hhorizon : (5 / 2 : Rat).ceil.toNat < 4 := hceil.trans_lt (by decide)
  refine ⟨htimeout, hpace, hhorizon, ?_⟩
  refine (Act.start_wait_tight Ticking.slowDeployer htimeout hpace hhorizon _).mono ?_
  rintro outcome turns after ⟨_, _, _, _, -, -, -, hpauses, hlooks⟩
  rw [hceil] at hpauses
  exact ⟨hpauses, hlooks⟩

end AppSupervisor
