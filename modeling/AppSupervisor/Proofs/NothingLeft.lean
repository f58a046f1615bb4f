import AppSupervisor.Proofs.CommandLine
import AppSupervisor.Proofs.Custody
import AppSupervisor.Proofs.ShuttingDown

/-!
What a run of the program leaves behind: nothing.

A run deploys one app, so at most one deployment is visible when it comes to the shutdown. A
shutdown that fails still reaches the first deployment, hence all there is. As processes are held by
visible deployments or have ended, an empty registry means that all of them have ended.
-/

namespace AppSupervisor

variable {σ : Type}

structure Clears (world : World σ) (done : List Event) (after : World σ) : Prop where
  accounts : Accounts world done after
  empty : world.registry.ids = [] → after.registry.ids = []

def Shrinks (world : World σ) (_done : List Event) (after : World σ) : Prop :=
  after.registry.ids ⊆ world.registry.ids

section Frame

variable {world after : World σ} {done : List Event}

theorem clears_of_registry_eq (hregistry : after.registry = world.registry)
    (htries : triesIn done = []) : Clears world done after :=
  ⟨accounts_of_registry_eq hregistry htries, fun hempty => by rw [hregistry, hempty]⟩

instance : IsFrame fun _ => (Clears : World σ → List Event → World σ → Prop) :=
  IsFrame.always (fun _ => clears_of_registry_eq rfl rfl)
    (fun hdone hmore => ⟨hdone.accounts.append hmore.accounts, hmore.empty ∘ hdone.empty⟩)
    (fun _ _ => clears_of_registry_eq rfl rfl) fun _ _ hquiet =>
    clears_of_registry_eq rfl (picked_of_quiet Event.try?_of_quiet (by simpa using hquiet))

instance : IsFrame fun _ => (Shrinks : World σ → List Event → World σ → Prop) :=
  IsFrame.always (fun _ => List.Subset.refl _) (fun hdone hmore => List.Subset.trans hmore hdone)
    (fun _ _ => List.Subset.refl _) fun _ _ _ => List.Subset.refl _

theorem Stops.shrinks {forgotten : String → Prop} (h : Stops forgotten world done after) :
    Shrinks world done after := by
  intro id hmem
  by_cases hid : id ∈ world.registry.ids
  · exact hid
  · have hgone := h.gone id (Registry.get?_eq_none_iff.mpr hid)
    exact absurd hmem (Registry.get?_eq_none_iff.mp hgone)

/-- An account that is closed with an empty registry has all processes ended. -/
theorem Clears.ended (h : Clears world done after) (hempty : world.registry.ids = [])
    (howned : Owned done) (before : List Event) (order : LaunchOrder) (pid : Nat)
    (rest : List Event) (hsplit : done = before ++ .launched order pid :: rest) :
    Ended rest pid := by
  rcases h.accounts.launched howned before order pid rest hsplit with hheld | hended
  · obtain ⟨id, instances, hget, -⟩ := hheld
    have hmem := Registry.mem_ids_of_get? hget
    simp [h.empty hempty] at hmem
  · exact hended

end Frame

namespace Act

open AppSupervisor.CommandLine

variable [Machine σ]

theorem deploy_leaves_one (deployer : Deployer) (request? : Option Request) {world : World σ}
    (hempty : world.registry.ids = []) :
    (deploy deployer request?).Yields world fun _ _ after =>
      ∃ id, ∀ other ∈ after.registry.ids, other = id := by
  refine (deploy_yields deployer request? world).mono ?_
  rintro (fault | id) done after hdone
  · obtain ⟨hregistry, -⟩ := hdone
    exact ⟨"", by simp [hregistry, hempty]⟩
  · obtain ⟨request, instances, -, -, -, -, hregistry⟩ := hdone
    rw [Registry.ids, List.map_eq_nil_iff] at hempty
    exact ⟨id, by simp [hregistry, Registry.ids, hempty]⟩

/-- A shutdown that finds one deployment leaves none, also when it fails. -/
theorem shutdown_empties (hanswers : Answers σ) (deployer : Deployer) {id : String}
    {world : World σ} (hone : ∀ other ∈ world.registry.ids, other = id) :
    (shutdown deployer).Yields world fun _ _ after => after.registry.ids = [] := by
  have hnone : ∀ {forgotten : String → Prop} {done : List Event} {after : World σ},
      Stops forgotten world done after →
        (∀ other ∈ world.registry.ids, Stopped other world done after) →
          after.registry.ids = [] := by
    intro forgotten done after hstops hstopped
    refine List.eq_nil_iff_forall_not_mem.mpr fun other hmem => ?_
    have hid := hstops.shrinks hmem
    cases hget : world.registry.get? other with
    | none => exact Registry.get?_eq_none_iff.mp hget hid
    | some instances =>
        exact Registry.get?_eq_none_iff.mp (hstopped other hid instances hget).1 hmem
  refine yields_bind_get (yields_bind ((undeployAll_yields hanswers deployer _ world).mono ?_))
  rintro (fault | _) done between hdone
  · -- the loop failed at the only deployment there is
    obtain ⟨reached, hreached, ⟨last, hlast, -⟩, hstopped, hstops⟩ := hdone
    have hmem : last ∈ reached := List.mem_of_getLast? hlast
    refine hnone hstops fun other hother => ?_
    rw [hone other hother, ← hone last (hreached.subset hmem)]
    exact hstopped last hmem
  · obtain ⟨hstopped, hstops⟩ := hdone
    refine (cleanup_yields deployer hstops).mono ?_
    rintro _ more after ⟨-, hregistry, -⟩
    rw [hregistry]
    exact hnone hstops hstopped

/-- Operating an app, with the shutdown behind it, leaves nothing. -/
theorem operation_clears (hanswers : Answers σ) (deployer : Deployer) (context : RunContext σ)
    (options : RunOptions) (request : Request) :
    (ensuring (operate context deployer.handle options request)
      (deployer.handle (σ := σ)).shutdown).Follows fun _ => Clears := by
  have haccounts : (operate context deployer.handle options request).Follows
      fun _ => (Accounts : World σ → List Event → World σ → Prop) := by
    intro world
    refine operate_yields (R := Accounts) status_accounts (undeploy_accounts deployer)
      ((deploy_accounts deployer (some request) world).mono ?_)
    rintro (fault | id) done between hdone
    · exact hdone
    · exact fun result more after hmore => hdone.append hmore
  have hone : ∀ world : World σ, world.registry.ids = [] →
      (operate context deployer.handle options request).Yields world fun _ _ between =>
        ∃ id, ∀ other ∈ between.registry.ids, other = id := by
    intro world hempty
    refine operate_yields (R := Shrinks) ?_ ?_
      ((deploy_leaves_one deployer (some request) hempty).mono ?_)
    · intro id
      have hstatus : (status id : Act σ AppStatus).Follows fun _ => Stops fun _ => False :=
        status_stops id
      exact hstatus.mono fun _ _ _ _ hstops => hstops.shrinks
    · exact fun id world => (undeploy_stopped hanswers deployer id world).mono
        fun _ _ _ hstops => hstops.1.shrinks
    · rintro (fault | _) done between ⟨id, hone⟩
      · exact ⟨id, hone⟩
      · exact fun result more after hmore => ⟨id, fun other hother => hone other (hmore hother)⟩
  intro world
  have hall := haccounts.ensuring (shutdown_accounts deployer) world
  by_cases hempty : world.registry.ids = []
  · have hnone : (ensuring (operate context deployer.handle options request)
        (deployer.handle (σ := σ)).shutdown).Yields world
          fun _ _ after => after.registry.ids = [] := by
      refine yields_ensuring ((hone world hempty).mono ?_)
      rintro _ done between ⟨id, hone⟩
      exact shutdown_empties hanswers deployer hone
    exact (hall.and hnone).mono fun _ _ _ hboth => ⟨hboth.1, fun _ => hboth.2⟩
  · exact hall.mono fun _ _ _ haccounts => ⟨haccounts, fun h => absurd h hempty⟩

theorem runApp_clears (hanswers : Answers σ) {context : RunContext σ}
    (deployerOf : Settings → Deployer)
    (hconnect : context.connect = fun settings => Deployer.connect (deployerOf settings))
    (options : RunOptions) (properties deploymentProperties : List (String × String)) :
    (runApp context options properties deploymentProperties).Follows fun _ => Clears := by
  refine (loadSettings_follows _ _ _).bind fun settings world => ?_
  have hconnected (prober : Prober) : Clears world ([] ++ []) { world with prober } :=
    clears_of_registry_eq rfl rfl
  rw [hconnect]
  refine yields_bind (yields_bind (yields_modify rfl (yields_pure ?_)))
  refine Yields.mono (Follows.bind (operation_clears hanswers _ context options _) ?_ _)
    fun _ _ _ hmore => Composes.append (hconnected _) hmore
  rintro ⟨_ | status, -⟩
  · exact follows_pure ()
  · dsimp only
    split
    · exact follows_raise _
    · exact follows_pure ()

/-- A run of the program that begins with an empty registry ends with one, whatever happens on the
way, and every process that it launched was killed or seen to have exited behind its launch, unless
others took the deployment. -/
theorem program_leaves_nothing (hanswers : Answers σ) (context : RunContext σ)
    (deployerOf : Settings → Deployer)
    (hconnect : context.connect = fun settings => Deployer.connect (deployerOf settings))
    (arguments : List String) (world : World σ) (hempty : world.registry.ids = []) :
    (program context arguments).Yields world fun _ done after => after.registry.ids = [] ∧
      (Owned done → ∀ before order pid rest, done = before ++ .launched order pid :: rest →
        Ended rest pid) := by
  have hrun := runApp_clears hanswers deployerOf hconnect
  refine (program_follows hrun arguments world).mono ?_
  exact fun outcome done after hclears => ⟨hclears.empty hempty, hclears.ended hempty⟩

end Act

def Obliging.runContext : CommandLine.RunContext Obliging where
  host := ⟨"/tmp", "python"⟩
  environment := [("APPDECK_SHUTDOWN_TIMEOUT", "0")]
  connect settings := Deployer.connect { settings, environment := [] }
  horizon := 10

def Obliging.afterRun : World Obliging :=
  ((Act.program Obliging.runContext ["run", "/app.py", "--no-supervise"]).perform
    { machine := ⟨false⟩ }).2

theorem program_leaves_nothing_obliging :
    Answers Obliging ∧ Obliging.afterRun.registry.ids = [] ∧
      ∃ done before order rest, Obliging.afterRun.journal = done.reverse ∧
        done = before ++ .launched order 1 :: rest ∧ Ended rest 1 := by
  obtain ⟨done, hjournal, hempty, hended⟩ := Act.program_leaves_nothing answers_obliging
    Obliging.runContext _ rfl ["run", "/app.py", "--no-supervise"] { machine := ⟨false⟩ } rfl
  have hdone : Obliging.afterRun.journal = done.reverse :=
    hjournal.trans (List.append_nil done.reverse)
  have hnone : lossesIn Obliging.afterRun.journal = [] := by decide +kernel
  have howned : Owned done := by
    intro id hmem
    have hlost : .lost id ∈ Obliging.afterRun.journal := by simpa [hdone] using hmem
    simpa using picked_eq_nil_iff.mp hnone _ hlost
  have hpids : 1 ∈ (launchesIn Obliging.afterRun.journal).map (·.2) := by decide +kernel
  obtain ⟨⟨order, pid⟩, hlaunch, rfl⟩ := List.mem_map.mp hpids
  have hlaunched : .launched order 1 ∈ done := by
    simpa [hdone] using mem_launchesIn.mp hlaunch
  obtain ⟨before, rest, hsplit⟩ := List.append_of_mem hlaunched
  exact ⟨answers_obliging, hempty, done, before, order, rest, hdone, hsplit,
    hended howned before order _ rest hsplit⟩

end AppSupervisor
