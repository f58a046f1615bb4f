import AppSupervisor.Proofs.Deploying

/-!
A deployment as its plan has it.

The claim of the id and the publishing stand around the launches and tell nothing but words. What a
plan says is known of every order that is given by it, whether the launches succeed or not. The
steps in front of the working directory change nothing, so it can be said beforehand which requests
pass them.
-/

namespace AppSupervisor

open AppSupervisor.Files

variable {σ : Type}

def Event.isTalk : Event → Bool
  | .logged _ _ | .raised _ => true
  | _ => false

def Around (middle done : List Event) : Prop :=
  ∃ first last, done = first ++ middle ++ last ∧ ∀ event ∈ first ++ last, event.isTalk

theorem picked_of_talk {α : Type} {view : Event → Option α} {done : List Event}
    (hview : ∀ event, event.isTalk → view event = none) (htalk : ∀ event ∈ done, event.isTalk) :
    picked view done = [] :=
  picked_eq_nil_iff.mpr fun event hmem => hview event (htalk event hmem)

theorem Around.picked {α : Type} {view : Event → Option α} {middle done : List Event}
    (h : Around middle done) (hview : ∀ event, event.isTalk → view event = none) :
    picked view done = picked view middle := by
  obtain ⟨first, last, rfl, htalk⟩ := h
  obtain ⟨hfirst, hlast⟩ := List.forall_mem_append.mp htalk
  simp [picked_of_talk hview hfirst, picked_of_talk hview hlast]

theorem Event.launch?_of_talk (event : Event) (h : event.isTalk) : event.launch? = none := by
  cases event <;> simp_all [isTalk]

theorem Event.try?_of_talk (event : Event) (h : event.isTalk) : event.try? = none := by
  cases event <;> simp_all [isTalk]

theorem Event.kill?_of_talk (event : Event) (h : event.isTalk) : event.kill? = none := by
  cases event <;> simp_all [isTalk]

theorem FannedOut.around {plan : Plan} {started : List Instance} {count : Nat}
    {middle done : List Event} {instances : List Instance}
    (h : FannedOut plan started count middle instances) (hdone : Around middle done) :
    FannedOut plan started count done instances where
  launched := by
    rw [launchesIn, hdone.picked Event.launch?_of_talk]
    exact h.launched
  indices := h.indices
  kills := by
    rw [killsIn, hdone.picked Event.kill?_of_talk]
    exact h.kills

/-! ### Plans -/

structure PlanOf (deployer : Deployer) (id : String) (request : Request) (plan : Plan) : Prop where
  environment : Command.environmentFor deployer.settings deployer.environment id request =
    .ok plan.environment
  host : plan.host = deployer.settings.host
  deploymentId : plan.deploymentId = id
  request : plan.request = request

/-- The orders that are given by a plan, and the launches among them with their places. -/
structure Ordered (plan : Plan) (start : Nat) (done : List Event) : Prop where
  tries : ∀ order ∈ triesIn done, ∃ port index, order = plan.order port index
  launches : ∀ (place : Nat) (order : LaunchOrder) (pid : Nat),
    (launchesIn done)[place]? = some (order, pid) → ∃ port, order = plan.order port (start + place)

theorem ordered_of_triesIn_eq_nil {done : List Event} (h : triesIn done = []) (plan : Plan)
    (start : Nat) : Ordered plan start done where
  tries := by simp [h]
  launches := by simp [launchesIn_of_triesIn_eq_nil h]

namespace Act

variable [Machine σ]

theorem launchInstance_ordered (plan : Plan) (index : Nat) (allocated : List Int)
    (world : World σ) :
    (launchInstance plan index allocated).Yields world fun _ done _ =>
      ∀ order ∈ triesIn done, ∃ port, order = plan.order port index := by
  have hport : (allocatePort plan.host allocated plan.request.definition.properties
      plan.request.arguments : Act σ _).Follows Prepared := allocatePort_follows _ _ _ _
  refine yields_bind ((hport world).mono ?_)
  rintro outcome chosen between ⟨-, hquiet, -⟩
  have hnotries := picked_of_quiet Event.try?_of_quiet hquiet
  rcases outcome with fault | ⟨port, allocated⟩
  · simp [hnotries]
  · refine yields_bind_attempt ((launch_yields _ between).mono ?_)
    rintro outcome launched after ⟨-, hlaunched⟩
    cases outcome with
    | ok pid =>
        subst hlaunched
        exact yields_bind_note (yields_pure (by simpa [hnotries] using ⟨port, rfl⟩))
    | error fault =>
        subst hlaunched
        exact yields_throw (by simpa [hnotries] using ⟨port, rfl⟩)

/-- Further instances are launched in order, counted on from the started ones. -/
theorem launchMore_ordered (plan : Plan) (count : Nat) (started : List Instance)
    (allocated : List Int) (world : World σ) :
    (launchMore plan count started allocated).Yields world fun _ done _ =>
      Ordered plan started.length done := by
  -- places are counted on from the instances that were started before
  induction count generalizing started allocated world with
  | zero => exact yields_pure (ordered_of_triesIn_eq_nil rfl plan _)
  | succ count ih =>
      refine yields_bind_attempt (((launchInstance_yields plan _ allocated world).and
        (launchInstance_ordered plan _ allocated world)).mono ?_)
      rintro outcome first between ⟨⟨-, -, -, hfirst⟩, htried⟩
      have htries : ∀ order ∈ triesIn first, ∃ port index, order = plan.order port index :=
        fun order hmem => (htried order hmem).imp fun _ horder => ⟨_, horder⟩
      rcases outcome with fault | ⟨i, allocated⟩
      · refine yields_bind ((killStarted_yields plan.deploymentId started between).mono ?_)
        rintro outcome killed after ⟨rfl, -, -, hkilled⟩
        refine yields_throw ⟨by simpa [hkilled] using htries, ?_⟩
        simp [hfirst.1, launchesIn_of_triesIn_eq_nil hkilled]
      · obtain ⟨-, hindex, hlaunches, -⟩ := hfirst
        refine (ih (started ++ [i]) allocated between).mono ?_
        rintro outcome rest after ⟨hrest, hplaces⟩
        refine ⟨fun order hmem => ?_, fun place order pid hplace => ?_⟩
        · rw [triesIn, picked_append] at hmem
          exact (List.mem_append.mp hmem).elim (htries order) (hrest order)
        · rw [launchesIn, picked_append] at hplace
          cases place with
          | zero =>
              have hpair : plan.launchOf i = (order, pid) := by simpa [hlaunches] using hplace
              exact ⟨i.port, by simp [← (Prod.mk.inj hpair).1, hindex]⟩
          | succ place =>
              have hplace' : (launchesIn rest)[place]? = some (order, pid) := by
                simpa [hlaunches] using hplace
              obtain ⟨port, rfl⟩ := hplaces place order pid hplace'
              exact ⟨port, by simp [Nat.add_assoc, Nat.add_comm 1]⟩

/-- A plan that is made is one for the request. -/
theorem planFor_planOf (deployer : Deployer) (id : String) (request : Request) (world : World σ) :
    (planFor deployer.settings deployer.environment id request).Yields world fun outcome _ _ =>
      ∀ plan, outcome = .ok plan → PlanOf deployer id request plan := by
  obtain ⟨done, hjournal, -⟩ :=
    planFor_prepared deployer.settings deployer.environment id request world
  refine ⟨done, hjournal, fun plan hplan => ?_⟩
  have hperform : (planFor deployer.settings deployer.environment id request).perform world =
      (.ok plan, _) := Prod.ext hplan rfl
  obtain ⟨artifact, _, _, hperform⟩ := perform_bind_eq_ok hperform
  obtain ⟨command, _, _, hperform⟩ := perform_bind_eq_ok hperform
  obtain ⟨shared, _, hshared, hperform⟩ := perform_bind_eq_ok hperform
  obtain ⟨workDir, _, _, hperform⟩ := perform_bind_eq_ok hperform
  cases hperform
  refine ⟨?_, rfl, rfl, rfl⟩
  cases henvironment : Command.environmentFor deployer.settings deployer.environment id request with
  | ok environment =>
      rw [henvironment] at hshared
      cases hshared
      rfl
  | error fault =>
      rw [henvironment] at hshared
      cases hshared

/-- All orders of a deployment are given by one plan for it, if any is given at all, and all its
instances are those of the plan. -/
theorem launchAll_planned (deployer : Deployer) (id : String) (request : Request)
    (world : World σ) :
    (launchAll deployer id request).Yields world fun outcome done _ =>
      (triesIn done = [] ∧ ∃ fault, outcome = .error fault) ∨
        ∃ plan count, PlanOf deployer id request plan ∧ Ordered plan 0 done ∧
          instanceCount request.deploymentProperties = .ok count ∧
          ∀ instances, outcome = .ok instances → FannedOut plan [] count done instances := by
  refine yields_bind (yields_ofExcept (fun count hcount => ?_) fun fault _ => ?_)
  · refine yields_bind (((planFor_planOf deployer id request world).and
      (planFor_prepared _ _ id request world)).mono ?_)
    rintro outcome planned between ⟨hplan, -, hquiet, -⟩
    have hnotries := picked_of_quiet Event.try?_of_quiet hquiet
    cases outcome with
    | error fault => exact Or.inl ⟨hnotries, fault, rfl⟩
    | ok plan =>
        refine ((launchMore_yields plan count [] [] between rfl).and
          (launchMore_ordered plan count [] [] between)).mono ?_
        rintro outcome done after ⟨⟨-, hdone⟩, hordered⟩
        have hnolaunch := launchesIn_of_triesIn_eq_nil hnotries
        refine Or.inr ⟨plan, count, hplan plan rfl, ?_, hcount, ?_⟩
        · exact ⟨by simpa [hnotries] using hordered.tries,
            by simpa [hnolaunch] using hordered.launches⟩
        · rintro instances rfl
          obtain ⟨⟨more, hmore, hlength, hlaunched, hlaunches⟩, hindices, hkills⟩ := hdone
          refine ⟨⟨more, hmore, hlength, hlaunched, ?_⟩, hindices, ?_⟩
          · simpa [hnolaunch] using hlaunches
          · simpa [picked_of_quiet Event.kill?_of_quiet hquiet] using hkills
  · exact Or.inl ⟨rfl, fault, rfl⟩

/-! ### Around the launches -/

omit [Machine σ] in
/-- An id is claimed exactly if it is neither visible nor claimed yet. -/
theorem reserve_cases (id : String) (world : World σ) :
    (reserve id).Yields world fun outcome done after => (∀ event ∈ done, event.isTalk) ∧
      after.machine = world.machine ∧ after.root = world.root ∧ match outcome with
      | .ok _ => id ∉ world.registry.ids ∧ id ∉ world.registry.reserved ∧
          after.registry = { world.registry with reserved := id :: world.registry.reserved }
      | .error fault => (id ∈ world.registry.ids ∨ id ∈ world.registry.reserved) ∧
          fault = .alreadyDeployed id := by
  refine yields_bind_get (yields_bind (yields_ofExcept (fun claimed hclaimed => ?_) ?_))
  · obtain ⟨hvisible, hreserved, rfl⟩ := Registry.reserve_eq_ok_iff.mp hclaimed
    refine yields_bind (yields_set rfl (yields_note ⟨?_, rfl, rfl, hvisible, hreserved, rfl⟩))
    simp [Event.isTalk]
  · intro fault hfault
    exact ⟨by simp [Event.isTalk], rfl, rfl, Registry.reserve_eq_error_iff.mp hfault⟩

/-- Where an id is free, a deployment does what its launches do and says something around it. -/
theorem deploy_around (deployer : Deployer) (request : Request) (world : World σ)
    {post : World σ → Except Fault (List Instance) → List Event → World σ → Prop}
    (h : ∀ claimed : World σ, claimed.machine = world.machine → claimed.root = world.root →
      (launchAll deployer request.deploymentId request).Yields claimed (post claimed)) :
    (deploy deployer (some request)).Yields world fun outcome done after =>
      ((request.deploymentId ∈ world.registry.ids ∨
          request.deploymentId ∈ world.registry.reserved) ∧
        outcome = .error (.alreadyDeployed request.deploymentId) ∧ (∀ event ∈ done, event.isTalk) ∧
        after.machine = world.machine ∧ after.root = world.root) ∨
      ((request.deploymentId ∉ world.registry.ids ∧
          request.deploymentId ∉ world.registry.reserved) ∧
        ∃ claimed result middle between, claimed.machine = world.machine ∧
          claimed.root = world.root ∧ post claimed result middle between ∧ Around middle done ∧
          after.machine = between.machine ∧ after.root = between.root ∧ match result with
          | .ok instances => outcome = .ok request.deploymentId ∧
              after.registry = { world.registry with
                published := world.registry.published ++ [(request.deploymentId, instances)] }
          | .error fault => outcome = .error fault ∧ after.registry = world.registry) := by
  refine yields_bind ((reserve_cases request.deploymentId world).mono ?_)
  rintro outcome first claimed ⟨htalk, hmachine, hroot, hclaim⟩
  cases outcome with
  | error fault =>
      obtain ⟨htaken, rfl⟩ := hclaim
      exact Or.inl ⟨htaken, rfl, htalk, hmachine, hroot⟩
  | ok _ =>
      obtain ⟨hvisible, hreserved, hclaimed⟩ := hclaim
      refine yields_bind_attempt (((h claimed hmachine hroot).and
        (launchAll_yields deployer request.deploymentId request claimed)).mono ?_)
      rintro result middle between ⟨hpost, hregistry, -⟩
      rw [hclaimed] at hregistry
      cases result with
      | ok instances =>
          refine yields_bind (yields_bind (yields_modify rfl (yields_note ?_)))
          refine yields_bind_note (yields_pure (Or.inr ⟨⟨hvisible, hreserved⟩, claimed,
            .ok instances, middle, between, hmachine, hroot, hpost, ?_, rfl, rfl, rfl, ?_⟩))
          · refine ⟨first, _, (List.append_assoc first middle _).symm, ?_⟩
            exact List.forall_mem_append.mpr ⟨htalk, by simp [Event.isTalk]⟩
          · simp only [hregistry]
            exact Registry.publish_claim instances hvisible hreserved
      | error fault =>
          refine yields_bind (yields_modify rfl (yields_throw (Or.inr ⟨⟨hvisible, hreserved⟩,
            claimed, .error fault, middle, between, hmachine, hroot, hpost, ?_, rfl, rfl, rfl,
            ?_⟩)))
          · exact ⟨first, [], by simp, by simpa using htalk⟩
          · simp only [hregistry]
            exact Registry.release_claim hreserved

/-- A deployment that succeeds makes the instances of one plan visible; one that fails leaves the
registry as it was. -/
theorem deploy_planned (deployer : Deployer) (request : Request) (world : World σ) :
    (deploy deployer (some request)).Yields world fun outcome done after => match outcome with
      | .ok id => id = request.deploymentId ∧ id ∉ world.registry.ids ∧ ∃ plan instances,
          PlanOf deployer id request plan ∧ FannedOut plan [] instances.length done instances ∧
          instanceCount request.deploymentProperties = .ok instances.length ∧
          after.registry = { world.registry with
            published := world.registry.published ++ [(id, instances)] }
      | .error _ => after.registry = world.registry := by
  refine ((deploy_around deployer request world fun claimed _ _ =>
    launchAll_planned deployer request.deploymentId request claimed).and
      (deploy_yields deployer (some request) world)).mono ?_
  rintro outcome done after ⟨⟨-, rfl, -⟩ |
    ⟨⟨hvisible, -⟩, claimed, result, middle, between, -, -, hplanned, haround, -, -, hresult⟩,
    hdone⟩
  · exact hdone.1
  · cases result with
    | error fault =>
        obtain ⟨rfl, hregistry⟩ := hresult
        exact hregistry
    | ok instances =>
        obtain ⟨rfl, hregistry⟩ := hresult
        rcases hplanned with ⟨-, fault, hfault⟩ | ⟨plan, count, hplan, -, hcount, hfanned⟩
        · contradiction
        · have hfanned := hfanned instances rfl
          obtain rfl : instances.length = count := by
            obtain ⟨more, rfl, hlength, -⟩ := hfanned.launched
            simpa using hlength
          exact ⟨rfl, hvisible, plan, instances, hplan, hfanned.around haround, hcount, hregistry⟩

end Act

/-! ### Up to the working directory -/

inductive Found [Machine σ] (machine : σ) : Resource → Path → Prop
  | file {path resolved : Path} (hresolve : Machine.resolve path machine = .ok resolved)
      (hfile : Machine.isFile resolved machine = .ok true) : Found machine (.file path) resolved
  | provided {provider text : String} :
      Found machine (.provided provider (.ok text)) (.ofString text)

structure Acceptable [Machine σ] (deployer : Deployer) (request : Request) (world : World σ) :
    Prop where
  visible : request.deploymentId ∉ world.registry.ids
  reserved : request.deploymentId ∉ world.registry.reserved
  counted : ∃ count, instanceCount request.deploymentProperties = .ok count
  found : ∃ artifact command, Found world.machine request.resource artifact ∧
    Command.build deployer.settings request artifact = .ok command

namespace Act

variable [Machine σ]

theorem artifactFile_found {resource : Resource} {artifact : Path} {world : World σ}
    (h : Found world.machine resource artifact) :
    (artifactFile resource : Act σ Path).Yields world fun outcome done after =>
      outcome = .ok artifact ∧ done = [] ∧ after = world := by
  cases h with
  | file hresolve hfile =>
      refine yields_bind (yields_bind_get ?_)
      rw [hresolve]
      refine yields_pure (yields_bind (yields_bind_get ?_))
      rw [hfile]
      exact yields_pure (yields_pure ⟨rfl, rfl, rfl⟩)
  | provided =>
      unfold artifactFile
      dsimp only [ofExcept]
      rw [map_eq_pure_bind]
      exact yields_bind (yields_pure (yields_pure ⟨rfl, rfl, rfl⟩))

/-- An acceptable request comes as far as its environment, and with an environment as far as its
working directory. -/
theorem launchAll_acceptable {deployer : Deployer} {request : Request} {world claimed : World σ}
    (h : Acceptable deployer request world) (hmachine : claimed.machine = world.machine)
    {post : Fault → List Event → World σ → Prop}
    (herror : ∀ fault, Command.environmentFor deployer.settings deployer.environment
      request.deploymentId request = .error fault →
        post fault [.raised fault] { claimed with journal := .raised fault :: claimed.journal })
    (hworkDir : ∀ shared, Command.environmentFor deployer.settings deployer.environment
      request.deploymentId request = .ok shared →
        (workDirectoryFor deployer.settings request.deploymentId request).Yields claimed
          fun outcome done after => ∃ fault, outcome = .error fault ∧ post fault done after) :
    (launchAll deployer request.deploymentId request).Yields claimed fun outcome done after =>
      ∃ fault, outcome = .error fault ∧ post fault done after := by
  obtain ⟨count, hcount⟩ := h.counted
  obtain ⟨artifact, command, hfound, hcommand⟩ := h.found
  rw [← hmachine] at hfound
  refine yields_bind (yields_ofExcept (fun count' _ => ?_) fun fault hfault => ?_)
  · refine yields_bind (yields_bind (yields_bind_attempt ((artifactFile_found hfound).mono ?_)))
    rintro _ _ _ ⟨rfl, rfl, rfl⟩
    refine yields_pure (yields_bind (yields_ofExcept (fun command' _ => ?_) fun fault hfault => ?_))
    · refine yields_bind (yields_ofExcept (fun shared hshared => ?_) fun fault hfault => ?_)
      · refine yields_bind ((hworkDir shared hshared).mono ?_)
        rintro _ done after ⟨fault, rfl, hpost⟩
        exact ⟨fault, rfl, hpost⟩
      · exact ⟨fault, rfl, herror fault hfault⟩
    · rw [hcommand] at hfault
      cases hfault
  · rw [hcount] at hfault
    cases hfault

/-- So what an acceptable request fails for is what its environment or its working directory fails
for. -/
theorem deploy_acceptable {deployer : Deployer} {request : Request} {world : World σ}
    (h : Acceptable deployer request world)
    {post : World σ → Fault → List Event → World σ → Prop}
    (herror : ∀ claimed fault, Command.environmentFor deployer.settings deployer.environment
      request.deploymentId request = .error fault →
        post claimed fault [.raised fault]
          { claimed with journal := .raised fault :: claimed.journal })
    (hworkDir : ∀ claimed shared, Command.environmentFor deployer.settings deployer.environment
      request.deploymentId request = .ok shared →
        (workDirectoryFor deployer.settings request.deploymentId request).Yields claimed
          fun outcome done after => ∃ fault, outcome = .error fault ∧
            post claimed fault done after) :
    (deploy deployer (some request)).Yields world fun outcome done after =>
      ∃ claimed fault middle between, outcome = .error fault ∧ post claimed fault middle between ∧
        Around middle done ∧ claimed.machine = world.machine ∧ after.machine = between.machine ∧
        after.registry = world.registry := by
  refine (deploy_around deployer request world fun claimed hmachine _ =>
    launchAll_acceptable h hmachine (herror claimed) (hworkDir claimed)).mono ?_
  rintro outcome done after (⟨htaken, -⟩ | ⟨-, claimed, _, middle, between, hclaimed, -,
    ⟨fault, rfl, hpost⟩, haround, hmachine, -, houtcome, hregistry⟩)
  · rcases htaken with htaken | htaken
    · exact absurd htaken h.visible
    · exact absurd htaken h.reserved
  · exact ⟨claimed, fault, middle, between, houtcome, hpost, haround, hclaimed, hmachine, hregistry⟩

end Act

end AppSupervisor
