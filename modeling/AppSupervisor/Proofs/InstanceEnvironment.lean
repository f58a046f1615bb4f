import AppSupervisor.Proofs.Agreement
import AppSupervisor.Proofs.WorkDirectories

/-!
What an app is told.

The environment of an instance is known name by name. Each instance is told its own port and index,
and nothing of the host gets to it but what a pattern matches. A pattern that is malformed is
reported before anything is done.
-/

namespace AppSupervisor

open AppSupervisor.Command

variable {σ : Type}

/-- The order for the instance with an index has exactly the variables that the instance is told,
and each of them once if that is so on the host. The port is the one that the instance tells. -/
structure ToldExactly (deployer : Deployer) (request : Request) (index : Nat) (i : Instance)
    (order : LaunchOrder) : Prop where
  place : i.index = index ∧ order.index = index
  told : ∀ name,
    order.environment.lookup name = instanceVariable deployer request i.port index name
  once : (deployer.environment.map (·.1)).Nodup → (order.environment.map (·.1)).Nodup
  port : i.attributes.lookup "port" = some (toString i.port)
  url : i.attributes.lookup "url" = some s!"http://{deployer.settings.host}:{i.port}"

theorem PlanOf.toldExactly {deployer : Deployer} {request : Request} {plan : Plan} {i : Instance}
    (hplan : PlanOf deployer request.deploymentId request plan) (hlaunched : plan.Launched i) :
    ToldExactly deployer request i.index i (plan.order i.port i.index) where
  place := ⟨rfl, rfl⟩
  told name := by
    simp only [Plan.order, hplan.request]
    exact lookup_environmentOf hplan.environment i.port i.index name
  once hnodup := nodup_environmentOf hplan.environment hnodup _ i.port i.index
  port := rfl
  url := by
    have hurl : i.attributes.lookup "url" = some i.baseUrl := rfl
    rw [hurl, hlaunched, Plan.instanceOf, hplan.host]

namespace Act

variable [Machine σ]

/-- A deployment publishes its instances in the order of their launches, each told what is its own.
-/
theorem deploy_told (deployer : Deployer) (request : Request) (world : World σ) :
    (deploy deployer (some request)).Yields world fun outcome done after =>
      ∀ id, outcome = .ok id → ∃ instances, (id, instances) ∈ after.registry.published ∧
        instanceCount request.deploymentProperties = .ok instances.length ∧
        (launchesIn done).length = instances.length ∧
        ∀ (index : Nat) (i : Instance), instances[index]? = some i → ∃ order,
          (launchesIn done)[index]? = some (order, i.pid) ∧
            ToldExactly deployer request index i order := by
  refine (deploy_planned deployer request world).mono ?_
  rintro outcome done after hdone id rfl
  obtain ⟨rfl, -, plan, instances, hplan, hfanned, hcount, hregistry⟩ := hdone
  obtain ⟨⟨more, hmore, -, hlaunched, hlaunches⟩, hindices, -⟩ := hfanned
  obtain rfl : instances = more := by simpa using hmore
  rw [hlaunches]
  refine ⟨instances, by simp [hregistry], hcount, by simp, fun index i hplace => ?_⟩
  obtain rfl := index_eq_place hindices hplace
  exact ⟨plan.order i.port i.index, by simp [hplace, Plan.launchOf],
    hplan.toldExactly (hlaunched i (List.mem_of_getElem? hplace))⟩

/-- A malformed pattern is reported before the machine is asked for anything. -/
theorem deploy_malformed {deployer : Deployer} {request : Request} {world : World σ}
    (haccept : Acceptable deployer request world)
    (hread : ∀ text ∈ patternsFor deployer.settings request,
      (∃ pattern, Pattern.parse text = .ok pattern) ∨
        ∃ cause position, Pattern.parse text = .error (.malformed cause position))
    (hbad : ∃ text ∈ patternsFor deployer.settings request, ∃ cause position,
      Pattern.parse text = .error (.malformed cause position)) :
    (deploy deployer (some request)).Yields world fun outcome done after =>
      (∃ text ∈ patternsFor deployer.settings request, ∃ cause position,
        Pattern.parse text = .error (.malformed cause position) ∧
        outcome = .error (.badRequest (.badPattern text (.malformed cause position)))) ∧
      (∀ event ∈ done, event.isTalk) ∧ after.machine = world.machine ∧
        after.registry = world.registry := by
  obtain ⟨text, hmem, cause, position, hparse, hcompile⟩ := mapM_compile_malformed hread hbad
  have henvironment : environmentFor deployer.settings deployer.environment request.deploymentId
      request = .error (.badRequest (.badPattern text (.malformed cause position))) := by
    rw [environmentFor_eq, hcompile]
    rfl
  have hworkDir : ∀ (claimed : World σ) (shared : Variables),
      environmentFor deployer.settings deployer.environment request.deploymentId request =
          .ok shared →
        (workDirectoryFor deployer.settings request.deploymentId request).Yields claimed
          fun outcome done after => ∃ fault, outcome = .error fault ∧
            fault = .badRequest (.badPattern text (.malformed cause position)) ∧
            (∀ event ∈ done, event.isTalk) ∧ after.machine = claimed.machine := by
    intro claimed shared hshared
    rw [henvironment] at hshared
    contradiction
  refine (deploy_acceptable haccept (fun claimed fault hfault => ?_) hworkDir).mono ?_
  · rw [henvironment] at hfault
    cases hfault
    exact ⟨rfl, by simp [Event.isTalk], rfl⟩
  · rintro outcome done after ⟨claimed, _, middle, between, rfl, ⟨rfl, hmiddle, hbetween⟩,
      ⟨first, last, rfl, htalk⟩, hclaimed, hmachine, hregistry⟩
    obtain ⟨hfirst, hlast⟩ := List.forall_mem_append.mp htalk
    refine ⟨⟨text, hmem, cause, position, hparse, rfl⟩, ?_, ?_, hregistry⟩
    · exact List.forall_mem_append.mpr ⟨List.forall_mem_append.mpr ⟨hfirst, hmiddle⟩, hlast⟩
    · exact hmachine.trans (hbetween.trans hclaimed)

/-- If a deployment succeeds, each instance is launched with exactly the variables that it is told.
From a host with the same values for the names that are matched, the same is launched with the same
result. A malformed pattern, where nothing else is wrong, is reported and nothing is done. -/
theorem deploy_environment_exact (deployer : Deployer) (request : Request) (world : World σ) :
    (deploy deployer (some request)).Yields world fun outcome done after =>
      (∀ id, outcome = .ok id → ∃ instances, (id, instances) ∈ after.registry.published ∧
        instanceCount request.deploymentProperties = .ok instances.length ∧
        (launchesIn done).length = instances.length ∧
        ∀ (index : Nat) (i : Instance), instances[index]? = some i → ∃ order,
          (launchesIn done)[index]? = some (order, i.pid) ∧
            ToldExactly deployer request index i order) ∧
      (∀ environment : Variables, SeesVariables σ →
        (∀ name, isInherited deployer.settings request name →
          deployer.environment.lookup name = environment.lookup name) →
        (deploy { deployer with environment } (some request)).Yields world fun result more _ =>
          result = outcome ∧ List.Forall₂ (fun launch other => launch.1.Alike other.1 ∧
            launch.2 = other.2) (launchesIn done) (launchesIn more)) ∧
      (Acceptable deployer request world →
        (∀ text ∈ patternsFor deployer.settings request,
          (∃ pattern, Pattern.parse text = .ok pattern) ∨
            ∃ cause position, Pattern.parse text = .error (.malformed cause position)) →
        (∃ text ∈ patternsFor deployer.settings request, ∃ cause position,
          Pattern.parse text = .error (.malformed cause position)) →
        (∃ text ∈ patternsFor deployer.settings request, ∃ cause position,
          Pattern.parse text = .error (.malformed cause position) ∧
          outcome = .error (.badRequest (.badPattern text (.malformed cause position)))) ∧
        (∀ event ∈ done, event.isTalk) ∧ after.machine = world.machine ∧
          after.registry = world.registry) := by
  obtain ⟨done, hjournal, htold⟩ := deploy_told deployer request world
  refine ⟨done, hjournal, htold, fun environment hsees hsame => ?_, fun haccept hread hbad => ?_⟩
  · have hagree := deploy_agreeAt hsees deployer.settings hsame world
    refine (hagree.of_journal hjournal).mono ?_
    exact fun result more behind ⟨hresult, halike, _⟩ => ⟨hresult, forall₂_launches halike⟩
  · exact (deploy_malformed haccept hread hbad).of_journal hjournal

end Act

open Rehearsal

def hostingDeployer : Deployer where
  settings := { swiftDeployer.settings with patterns := ["PA.H"] }
  environment := [("PATH", "/bin"), ("TOKEN", "secret")]

def rekeyedHost : Variables :=
  [("TOKEN", "changed"), ("PATH", "/bin")]

def misreadingDeployer : Deployer :=
  { hostingDeployer with settings := { swiftDeployer.settings with patterns := ["PA.H", "("] } }

theorem seesVariables_shelf : SeesVariables Shelf :=
  fun _ _ _ _ => rfl

theorem isInherited_path : isInherited hostingDeployer.settings greenApp "PATH" = true := by
  decide +kernel

theorem isInherited_token : isInherited hostingDeployer.settings greenApp "TOKEN" = false := by
  decide +kernel

theorem lookup_rekeyedHost (name : String)
    (h : isInherited hostingDeployer.settings greenApp name) :
    hostingDeployer.environment.lookup name = rekeyedHost.lookup name := by
  by_cases hname : name = "TOKEN"
  · rw [hname, isInherited_token] at h
    contradiction
  · simp [hostingDeployer, rekeyedHost, lookup_entry, hname]

theorem acceptable_misreading :
    Acceptable misreadingDeployer greenApp { machine := ({} : Shelf) } where
  visible := by simp [Registry.ids]
  reserved := by simp
  counted := ⟨2, rfl⟩
  found := ⟨_, _, .file rfl rfl, rfl⟩

theorem deploy_environment_exact_shelf :
    ((Act.deploy hostingDeployer (some greenApp)).Yields { machine := ({} : Shelf) }
      fun outcome done _ => outcome.toOption = some "default.app" ∧
        (∃ order pid, (launchesIn done)[1]? = some (order, pid) ∧
          order.environment.lookup "INSTANCE_INDEX" = some "1" ∧
          order.environment.lookup "PATH" = some "/bin" ∧
          order.environment.lookup "TOKEN" = none) ∧
        (Act.deploy { hostingDeployer with environment := rekeyedHost } (some greenApp)).Yields
          { machine := ({} : Shelf) } fun result more _ => result = outcome ∧
            List.Forall₂ (fun launch other => launch.1.Alike other.1 ∧ launch.2 = other.2)
              (launchesIn done) (launchesIn more)) ∧
      (Act.deploy misreadingDeployer (some greenApp)).Yields { machine := ({} : Shelf) }
        fun outcome done _ => (∃ what, outcome = .error (.badRequest what)) ∧
          ∀ event ∈ done, event.isTalk := by
  constructor
  · obtain ⟨done, hjournal, htold, hagree, -⟩ :=
      Act.deploy_environment_exact hostingDeployer greenApp { machine := ({} : Shelf) }
    have hrun : ((Act.deploy hostingDeployer (some greenApp)).perform
        { machine := ({} : Shelf) }).1.toOption = some "default.app" := by
      decide +kernel
    refine ⟨done, hjournal, hrun, ?_, hagree rekeyedHost seesVariables_shelf lookup_rekeyedHost⟩
    cases houtcome : ((Act.deploy hostingDeployer (some greenApp)).perform
        { machine := ({} : Shelf) }).1 with
    | error fault => simp [houtcome, Except.toOption] at hrun
    | ok id =>
        obtain ⟨instances, -, hcount, -, hplaces⟩ := htold id houtcome
        have htwo : instances.length = 2 := by
          have hgreen : instanceCount greenApp.deploymentProperties = .ok 2 := rfl
          exact (Except.ok.inj (hgreen.symm.trans hcount)).symm
        obtain ⟨order, hlaunch, hexact⟩ := hplaces 1 instances[1] (by simp [htwo])
        have hvalue : hostingDeployer.environment.lookup "PATH" = some "/bin" := rfl
        have hproperties : greenApp.definition.properties = [] := rfl
        refine ⟨order, _, hlaunch, ?_, ?_, ?_⟩ <;> rw [hexact.told]
        · have hdigits : toString 1 = "1" := rfl
          simp only [instanceVariable, indexVariable, indexProperty, hdigits]
          rfl
        · simp [instanceVariable, indexVariable, indexProperty, hproperties, isInherited_path,
            hvalue]
        · simp [instanceVariable, indexVariable, indexProperty, hproperties, isInherited_token]
  · obtain ⟨done, hjournal, -, -, hmalformed⟩ :=
      Act.deploy_environment_exact misreadingDeployer greenApp { machine := ({} : Shelf) }
    have hpatterns : patternsFor misreadingDeployer.settings greenApp = ["PA.H", "("] := rfl
    rw [hpatterns] at hmalformed
    obtain ⟨⟨text, -, cause, position, -, houtcome⟩, htalk, -⟩ := hmalformed acceptable_misreading
      (List.forall_mem_cons.mpr
        ⟨Or.inl ⟨_, rfl⟩, List.forall_mem_singleton.mpr (Or.inr ⟨_, _, rfl⟩)⟩)
      ⟨"(", by simp, _, _, rfl⟩
    exact ⟨done, hjournal, ⟨_, houtcome⟩, htalk⟩

end AppSupervisor
