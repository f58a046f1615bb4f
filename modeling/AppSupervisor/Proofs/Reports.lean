import AppSupervisor.Proofs.Calls
import AppSupervisor.Proofs.FreshDirectories

/-!
What is told about deployments.

Behind any calls, a visible deployment has the instances that were launched when it was deployed:
at least one, and each with its place as its index. Nothing but a deployment makes an entry of the
registry. Asking each of them once gives states of which none is unknown, so that a deployment is
unknown exactly if it is not visible.
-/

namespace AppSupervisor

variable {σ : Type}

/-! ### What is visible -/

def Fades (world : World σ) (_ : List Event) (after : World σ) : Prop :=
  ∀ id instances, after.registry.get? id = some instances →
    world.registry.get? id = some instances

theorem fades_of_registry_eq {world after : World σ} {done : List Event}
    (h : after.registry = world.registry) : Fades world done after :=
  fun _ _ hget => h ▸ hget

theorem Act.operation_fades [Machine σ] (deployer : Deployer) {operation : Operation}
    (hdeploy : ∀ request?, operation ≠ .deploy request?) :
    (operation.act deployer : Act σ Unit).Follows fun _ => Fades := by
  refine operation_takesAway (P := fun before after => ∀ id instances,
      after.get? id = some instances → before.get? id = some instances) ?_ ?_ ?_ deployer hdeploy
  · exact fun _ _ _ hget => hget
  · exact fun hfirst hmore id instances hget => hfirst id instances (hmore id instances hget)
  · intro r id other instances hget
    rw [Registry.get?_remove] at hget
    split at hget
    · contradiction
    · exact hget

/-! ### What was deployed -/

variable [Machine σ] {reached : World σ → Prop} {deployer : Deployer} {world : World σ}

/-- Instances are all that a call to deploy an app launched, in the order of their launches. The
call was made in a world that was reached, and a journal tells of it. -/
structure Deployed (reached : World σ → Prop) (deployer : Deployer) (journal : List Event)
    (id : String) (instances : List Instance) : Prop where
  nonempty : instances ≠ []
  indices : instances.map (·.index) = List.range instances.length
  ids : ∀ i ∈ instances, i.deploymentId = id
  called : ∃ request before done later, reached before ∧
    ((Act.deploy deployer (some request)).perform before).1 = .ok id ∧
    ((Act.deploy deployer (some request)).perform before).2.journal =
      done.reverse ++ before.journal ∧
    journal = later ++ done.reverse ++ before.journal ∧
    (launchesIn done).map (·.2) = instances.map (·.pid)

theorem Deployed.later {journal : List Event} {id : String} {instances : List Instance}
    (h : Deployed reached deployer journal id instances) (more : List Event) :
    Deployed reached deployer (more ++ journal) id instances := by
  obtain ⟨request, before, done, later, hbefore, hok, hbehind, rfl, hpids⟩ := h.called
  exact { h with
    called := ⟨request, before, done, more ++ later, hbefore, hok, hbehind, by simp, hpids⟩ }

def Accounted (reached : World σ → Prop) (deployer : Deployer) (world : World σ) : Prop :=
  ∀ id instances, world.registry.get? id = some instances →
    Deployed reached deployer world.journal id instances

theorem Accounted.later {done : List Event} {after : World σ}
    (h : Accounted reached deployer world) (hfades : Fades world done after)
    (hjournal : after.journal = done.reverse ++ world.journal) :
    Accounted reached deployer after := by
  intro id instances hget
  rw [hjournal]
  exact (h id instances (hfades id instances hget)).later _

namespace Act

/-- A deployment that succeeds was made by a call that the journal tells of, and those before it
stay accounted for. -/
theorem deploy_accounted (h : Accounted reached deployer world) (hreached : reached world)
    (request? : Option Request) :
    (deploy deployer request?).Yields world fun _ _ after =>
      Accounted reached deployer after := by
  cases request? with
  | none => exact yields_raise fun id instances hget => (h id instances hget).later [_]
  | some request =>
      obtain ⟨done, hjournal, hdone⟩ := deploy_planned deployer request world
      refine ⟨done, hjournal, ?_⟩
      rcases houtcome : ((deploy deployer (some request)).perform world).1 with fault | id
      · rw [houtcome] at hdone
        exact h.later (fades_of_registry_eq hdone) hjournal
      · rw [houtcome] at hdone
        obtain ⟨rfl, hvisible, plan, instances, hplan, hfanned, hcount, hregistry⟩ := hdone
        intro other others hget
        rw [hregistry] at hget
        by_cases hother : other = request.deploymentId
        · subst hother
          rw [Registry.get?_append_self instances hvisible] at hget
          cases hget
          obtain ⟨more, rfl, -, hlaunched, hlaunches⟩ := hfanned.launched
          refine ⟨?_, hfanned.indices, fun i hmem => ?_,
            request, world, done, [], hreached, houtcome, hjournal, hjournal, ?_⟩
          · exact List.length_pos_iff.mp (instanceCount_pos hcount)
          · rw [hlaunched i hmem, Plan.instanceOf, hplan.deploymentId]
          · simp [hlaunches, Plan.launchOf]
        · rw [Registry.get?_append_of_ne instances hother] at hget
          rw [hjournal]
          exact (h other others hget).later _

theorem operation_accounted (h : Accounted reached deployer world) (hreached : reached world)
    (operation : Operation) :
    (operation.act deployer : Act σ Unit).Yields world fun _ _ after =>
      Accounted reached deployer after := by
  refine operation_yields (deploy_accounted h hreached) fun hdeploy => ?_
  obtain ⟨done, hjournal, hfades⟩ := operation_fades deployer hdeploy world
  exact ⟨done, hjournal, h.later hfades hjournal⟩

end Act

/-- Whatever was done, what is visible was deployed on the way. -/
theorem Operated.accounted {allows : Operation → Prop} {keeps : World σ → σ → Prop}
    {start : World σ} (hstart : start.registry.published = [])
    (hrun : Operated deployer allows keeps start world) :
    Accounted (Operated deployer allows keeps start) deployer world := by
  induction hrun with
  | start =>
      intro id instances hget
      rw [Registry.get?, hstart] at hget
      contradiction
  | call operation _ hbefore ih =>
      obtain ⟨_, -, hafter⟩ := Act.operation_accounted ih hbefore operation
      exact hafter
  | pass machine _ _ ih => exact ih

/-! ### Asking instances -/

@[simp]
def Event.page? : Event → Option String
  | .askedPage _ url _ => some url
  | _ => none

abbrev pagesIn (done : List Event) : List String := picked Event.page? done

def isRunning : Except Fault (Option Int) → Bool
  | .ok none => true
  | _ => false

/-- The states that an instance may have behind the answer of the machine about its process. -/
def Fits : Except Fault (Option Int) → State → Prop
  | .ok none, state => state = .deployed ∨ state = .deploying
  | .ok (some code), state => state = if code = 0 then .undeployed else .failed
  | .error _, state => state = .error

/-- No state of an instance is partial or unknown. -/
theorem Fits.mem {answer : Except Fault (Option Int)} {state : State} (h : Fits answer state) :
    state ∈ [State.deploying, .deployed, .undeployed, .failed, .error] := by
  unfold Fits at h
  split at h
  · rcases h with rfl | rfl <;> decide
  · split at h <;> (subst h; decide)
  · subst h
    decide

structure Refuses (σ : Type) [Machine σ] : Prop where
  exitCode : ∀ (pid : Nat) (machine : σ) (fault : Fault),
    (Machine.exitCode pid machine).1 = .error fault → fault.isSystem
  httpGet : ∀ (url : String) (timeout : Float) (machine : σ) (fault : Fault),
    (Machine.httpGet url timeout machine).1.result = .error fault →
      ∃ kind message, fault = .http kind message

/-- Instances with the answers of the machine about their processes. Each answer is given behind the
probes of the instances in front. -/
def inquiry : List Instance → World σ → List (Instance × Except Fault (Option Int))
  | [], _ => []
  | i :: rest, world => (i, (Machine.exitCode i.pid world.machine).1) ::
      inquiry rest ((Act.probe mainThread i.pid i.baseUrl).perform world).2

@[simp]
theorem map_inquiry (instances : List Instance) (world : World σ) :
    (inquiry instances world).map (·.1) = instances := by
  induction instances generalizing world with
  | nil => rfl
  | cons i rest ih => rw [inquiry, List.map_cons, ih]

structure Faithful (asked : Instance × Except Fault (Option Int)) (told : InstanceStatus) :
    Prop where
  id : told.id = asked.1.id
  index : told.index = asked.1.index
  fits : Fits asked.2 told.state

theorem pagesIn_of_mishaps {done : List Event} (h : ∀ event ∈ done, event.isMishap) :
    pagesIn done = [] := by
  refine picked_eq_nil_iff.mpr fun event hmem => ?_
  have := h event hmem
  cases event <;> simp_all [Event.isMishap]

namespace Act

theorem exitCode_answers (pid : Nat) (world : World σ) :
    (exitCode pid : Act σ (Option Int)).Yields world fun outcome done _ =>
      outcome = (Machine.exitCode pid world.machine).1 ∧ pagesIn done = [] := by
  refine yields_bind (yields_tryOperation (.exitCode pid) (fun code? machine hcode _ => ?_)
    fun fault machine hfault _ => ?_)
  · have hanswer : Except.ok code? = (Machine.exitCode pid world.machine).1 := by rw [hcode]
    cases code? with
    | some code => exact yields_bind_note (yields_pure ⟨hanswer, rfl⟩)
    | none => exact yields_bind (yields_pure (yields_pure ⟨hanswer, rfl⟩))
  · exact ⟨by rw [hfault], rfl⟩

omit [Machine σ] in
theorem sessionOf_answers (thread : String) (world : World σ) :
    (sessionOf thread).Yields world fun outcome done _ =>
      (∃ session, outcome = .ok session) ∧ pagesIn done = [] := by
  refine yields_bind_get ?_
  split
  · exact yields_pure ⟨⟨_, rfl⟩, rfl⟩
  · exact yields_bind (yields_set rfl (yields_bind_note (yields_pure ⟨⟨_, rfl⟩, rfl⟩)))

theorem probePage_answers (hrefuses : Refuses σ) (thread baseUrl : String) (world : World σ) :
    (probePage thread baseUrl).Yields world fun outcome done _ =>
      (outcome = .ok .deployed ∨ outcome = .ok .deploying) ∧ pagesIn done = [baseUrl] := by
  refine yields_bind ((sessionOf_answers thread world).mono ?_)
  rintro _ opened first ⟨⟨session, rfl⟩, hopened⟩
  refine yields_bind_get (yields_bind_note (yields_bind_attempt ((request_yields _ _).mono ?_)))
  rintro outcome asked after ⟨houtcome, -, hmishaps⟩
  have hasked := pagesIn_of_mishaps hmishaps
  split
  · exact yields_bind_note (yields_pure ⟨Or.inl rfl, by simp [hopened, hasked]⟩)
  · exact yields_bind_note (yields_pure ⟨Or.inr rfl, by simp [hopened, hasked]⟩)
  · rename_i fault hnot
    obtain ⟨kind, message, rfl⟩ := hrefuses.httpGet _ _ _ fault houtcome.symm
    exact absurd rfl (hnot kind message)

/-- A process is asked once, and its page exactly if it runs. -/
theorem probe_answers (hrefuses : Refuses σ) (thread : String) (pid : Nat) (baseUrl : String)
    (world : World σ) :
    (probe thread pid baseUrl).Yields world fun outcome done _ =>
      (∃ state, outcome = .ok state ∧ Fits (Machine.exitCode pid world.machine).1 state) ∧
        pagesIn done =
          if isRunning (Machine.exitCode pid world.machine).1 then [baseUrl] else [] := by
  refine yields_bind_attempt ((exitCode_answers pid world).mono ?_)
  rintro outcome done between ⟨houtcome, hpages⟩
  rw [← houtcome]
  rcases outcome with fault | _ | code
  · have hsystem : fault.isSystem := hrefuses.exitCode pid world.machine fault houtcome.symm
    dsimp only
    rw [if_pos hsystem]
    exact yields_bind_note (yields_pure ⟨⟨_, rfl, rfl⟩, by simp [hpages, isRunning]⟩)
  · refine (probePage_answers hrefuses thread baseUrl between).mono ?_
    rintro outcome asked after ⟨hstate, hasked⟩
    refine ⟨?_, by simp [hpages, hasked, isRunning]⟩
    rcases hstate with rfl | rfl
    · exact ⟨_, rfl, Or.inl rfl⟩
    · exact ⟨_, rfl, Or.inr rfl⟩
  · refine yields_pure ⟨⟨_, rfl, ?_⟩, by simp [hpages, isRunning]⟩
    by_cases hcode : code = 0 <;> simp [Fits, hcode]

/-- Every instance is told about, in order, by the answer that the machine gives at its turn. -/
theorem instanceStatuses_answers (hrefuses : Refuses σ) (instances : List Instance)
    (world : World σ) :
    (instanceStatuses instances).Yields world fun outcome done _ => ∃ told, outcome = .ok told ∧
      List.Forall₂ Faithful (inquiry instances world) told ∧
      pagesIn done = ((inquiry instances world).filter fun asked => isRunning asked.2).map
        (·.1.baseUrl) := by
  induction instances generalizing world with
  | nil => exact yields_pure ⟨[], rfl, .nil, rfl⟩
  | cons i rest ih =>
      refine yields_bind ((probe_answers hrefuses mainThread i.pid i.baseUrl world).located.mono ?_)
      rintro _ done between ⟨hprobe, ⟨state, rfl, hfits⟩, hpages⟩
      -- the others are asked in the world that this probe leaves
      refine yields_bind ((ih between).mono ?_)
      rintro _ more after ⟨others, rfl, hothers, hmore⟩
      rw [inquiry, hprobe]
      refine yields_pure ⟨_, rfl, .cons ⟨rfl, rfl, hfits⟩ hothers, ?_⟩
      cases hrunning : isRunning (Machine.exitCode i.pid world.machine).1 <;>
        simp [hpages, hmore, hrunning]

end Act

/-- States of which none is unknown agree on something that is known. -/
theorem aggregate_eq_unknown_iff {states : List State} (h : .unknown ∉ states) :
    aggregate states = .unknown ↔ states = [] := by
  cases states with
  | nil => simp [aggregate]
  | cons state rest =>
      have hstate : state ≠ .unknown := fun heq => h (heq ▸ List.mem_cons_self)
      have hknown : aggregate (state :: rest) ≠ .unknown := by
        unfold aggregate
        dsimp only
        split
        · exact hstate
        · split_ifs <;> simp
      simp [hknown]

/-- What is told is told of the instances, place by place. -/
theorem faithful_places {instances : List Instance} {world : World σ} {told : List InstanceStatus}
    (h : List.Forall₂ Faithful (inquiry instances world) told) :
    told.length = instances.length ∧
      ∀ (place : Nat) (i : Instance), instances[place]? = some i → ∃ answer status,
        (inquiry instances world)[place]? = some (i, answer) ∧ told[place]? = some status ∧
          Faithful (i, answer) status := by
  obtain ⟨hlength, hplaces⟩ := List.forall₂_iff_get.mp h
  have hinquiry : (inquiry instances world).length = instances.length := by
    rw [← List.length_map (·.1), map_inquiry]
  refine ⟨hlength.symm.trans hinquiry, fun place i hplace => ?_⟩
  rw [← map_inquiry instances world, List.getElem?_map, Option.map_eq_some_iff] at hplace
  obtain ⟨⟨_, answer⟩, hasked, rfl⟩ := hplace
  obtain ⟨hlt, heq⟩ := List.getElem?_eq_some_iff.mp hasked
  have hfaithful := hplaces place hlt (hlength ▸ hlt)
  rw [List.get_eq_getElem, List.get_eq_getElem, heq] at hfaithful
  exact ⟨answer, told[place], hasked, List.getElem?_eq_getElem (hlength ▸ hlt), hfaithful⟩

theorem unknown_not_mem {asked : List (Instance × Except Fault (Option Int))}
    {told : List InstanceStatus} (h : List.Forall₂ Faithful asked told) :
    .unknown ∉ told.map (·.state) := by
  induction h with
  | nil => simp
  | @cons _ status _ _ hfirst _ ih =>
      rw [List.map_cons, List.mem_cons, not_or]
      refine ⟨fun hstate => ?_, ih⟩
      have hknown := hfirst.fits.mem
      rw [← hstate] at hknown
      simp at hknown

namespace Act

/-- Behind any calls, the status of an id is told. One that is not visible has no instances, and
nothing is asked for. One that is visible has an entry for each instance that was launched when it
was deployed, in the order of the launches, and asks for the page of each instance whose process
runs, and for no other. The deployment is unknown exactly if it is not visible. -/
theorem status_faithful (hrefuses : Refuses σ) (deployer : Deployer) {start world : World σ}
    (hstart : start.registry.published = [])
    (hrun : Operated deployer (fun _ => True) (fun _ _ => True) start world) (id : String) :
    (status id).Yields world fun outcome done after => ∃ report, outcome = .ok report ∧
      (report.state = .unknown ↔ id ∉ world.registry.ids) ∧
      match world.registry.get? id with
      | none => report.instances = [] ∧ done = [] ∧ after = world
      | some instances =>
          Deployed (Operated deployer (fun _ => True) (fun _ _ => True) start) deployer
            world.journal id instances ∧
          report.instances.length = instances.length ∧
          (∀ (place : Nat) (i : Instance), instances[place]? = some i → ∃ answer told,
            (inquiry instances world)[place]? = some (i, answer) ∧
            report.instances[place]? = some told ∧ told.index = place ∧
            told.id = s!"{id}-{place}" ∧ Fits answer told.state ∧
            told.state ∈ [State.deploying, .deployed, .undeployed, .failed, .error]) ∧
          pagesIn done = ((inquiry instances world).filter fun asked => isRunning asked.2).map
            (·.1.baseUrl) := by
  refine yields_bind_get ?_
  cases hget : world.registry.get? id with
  | none =>
      have hhidden := Registry.get?_eq_none_iff.mp hget
      exact yields_pure ⟨_, rfl, ⟨fun _ => hhidden, fun _ => rfl⟩, rfl, rfl, rfl⟩
  | some instances =>
      have hdeployed := hrun.accounted hstart id instances hget
      refine yields_bind ((instanceStatuses_answers hrefuses instances world).mono ?_)
      rintro _ done after ⟨told, rfl, hfaithful, hpages⟩
      obtain ⟨hlength, hplaces⟩ := faithful_places hfaithful
      refine yields_pure ⟨_, rfl, ?_, hdeployed, hlength, fun place i hplace => ?_, ?_⟩
      · have hvisible := Registry.mem_ids_of_get? hget
        have hsome : told ≠ [] := by
          rintro rfl
          exact hdeployed.nonempty (List.eq_nil_of_length_eq_zero hlength.symm)
        rw [AppStatus.state, AppStatus.states,
          aggregate_eq_unknown_iff (unknown_not_mem hfaithful)]
        simp [hsome, hvisible]
      · obtain ⟨answer, status, hasked, htold, h⟩ := hplaces place i hplace
        have hindex := index_eq_place hdeployed.indices hplace
        refine ⟨answer, status, hasked, htold, h.index.trans hindex, ?_, h.fits, h.fits.mem⟩
        rw [h.id, Instance.id, hdeployed.ids i (List.mem_of_getElem? hplace), hindex]
      · simpa using hpages

end Act

open Rehearsal

def Shelf.afterDeployment : World Shelf :=
  (((Operation.deploy (some greenApp)).act swiftDeployer).perform { machine := {} }).2

theorem status_faithful_shelf :
    Refuses Shelf ∧ Operated swiftDeployer (fun _ => True) (fun _ _ => True)
      { machine := ({} : Shelf) } Shelf.afterDeployment ∧
      (Act.status "default.app").Yields Shelf.afterDeployment fun outcome _ _ =>
        ∃ report, outcome = .ok report ∧ report.states = [.deployed, .failed] ∧
          report.state ≠ .unknown ∧ ∃ instances,
            Shelf.afterDeployment.registry.get? "default.app" = some instances ∧
            Deployed (Operated swiftDeployer (fun _ => True) (fun _ _ => True)
              { machine := ({} : Shelf) }) swiftDeployer Shelf.afterDeployment.journal
              "default.app" instances := by
  have hrefuses : Refuses Shelf := by
    refine ⟨fun pid machine fault hfault => ?_, fun url timeout machine fault hfault => ?_⟩ <;>
      cases hfault
  have hrun : Operated swiftDeployer (fun _ => True) (fun _ _ => True)
      { machine := ({} : Shelf) } Shelf.afterDeployment := .call _ trivial .start
  have hstates : ((Act.status "default.app").perform Shelf.afterDeployment).1.toOption.map
      (·.states) = some [.deployed, .failed] := by
    decide +kernel
  have hids : "default.app" ∈ Shelf.afterDeployment.registry.ids := by decide +kernel
  have hdone := Act.status_faithful hrefuses swiftDeployer rfl hrun "default.app"
  refine ⟨hrefuses, hrun, ?_⟩
  -- the world is computed above and must not be unfolded any more
  clear hrun
  generalize Shelf.afterDeployment = world at hdone hids hstates ⊢
  obtain ⟨done, hjournal, report, houtcome, hunknown, hreport⟩ := hdone
  rw [houtcome] at hstates
  refine ⟨done, hjournal, report, houtcome, by simpa [Except.toOption] using hstates,
    fun hstate => hunknown.mp hstate hids, ?_⟩
  cases hget : world.registry.get? "default.app" with
  | none => exact absurd hids (Registry.get?_eq_none_iff.mp hget)
  | some instances =>
      rw [hget] at hreport
      exact ⟨instances, rfl, hreport.1⟩

end AppSupervisor
