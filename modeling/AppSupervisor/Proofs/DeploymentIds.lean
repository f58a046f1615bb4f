import AppSupervisor.Proofs.Reports

/-!
Which apps share a deployment id.

The dot between the group and the name of an app may stand in both of them as well, so the same id
is read in several ways. Apart from that, ids tell apps from each other: a deployment is refused
only for a visible one whose request spells the same id, and to undeploy an id leaves every other
deployment alone.
-/

namespace AppSupervisor

variable {σ : Type}

/-! ### Spelling an id -/

/-- The group of the second request goes on where that of the first one ends, and takes the front of
its name. -/
def Request.TakesFront (first second : Request) : Prop :=
  ∃ front, second.group = first.group ++ "." ++ front ∧
    first.definition.name = front ++ "." ++ second.definition.name

/-- Two requests for one app, or for apps whose groups and names spell the same id. -/
def Request.IsAlike (first second : Request) : Prop :=
  (first.group = second.group ∧ first.definition.name = second.definition.name) ∨
    first.TakesFront second ∨ second.TakesFront first

theorem Request.toList_deploymentId (request : Request) : request.deploymentId.toList =
    request.group.toList ++ '.' :: request.definition.name.toList := by
  have hjoined : request.deploymentId = request.group ++ "." ++ request.definition.name := rfl
  rw [hjoined, String.toList_append, String.toList_append]
  simp

theorem Request.TakesFront.deploymentId_eq {first second : Request} (h : first.TakesFront second) :
    first.deploymentId = second.deploymentId := by
  obtain ⟨front, hgroup, hname⟩ := h
  apply String.toList_injective
  rw [toList_deploymentId, toList_deploymentId, hgroup, hname]
  simp

/-- What a longer group has more than a shorter one is the front of the other name. -/
theorem Request.takesFront_of_append {first second : Request} {rest : List Char}
    (hgroup : second.group.toList = first.group.toList ++ '.' :: rest)
    (hname : first.definition.name.toList = rest ++ '.' :: second.definition.name.toList) :
    first.TakesFront second := by
  refine ⟨String.ofList rest, ?_, ?_⟩
  · apply String.toList_injective
    simp [hgroup]
  · apply String.toList_injective
    simp [hname]

/-- Where the second group goes on behind the first one, it either ends at once or takes the front
of the first name. -/
theorem Request.same_or_takesFront {first second : Request} {more : List Char}
    (hgroup : second.group.toList = first.group.toList ++ more)
    (hname : '.' :: first.definition.name.toList = more ++ '.' :: second.definition.name.toList) :
    (first.group = second.group ∧ first.definition.name = second.definition.name) ∨
      first.TakesFront second := by
  cases more with
  | nil =>
      refine Or.inl ⟨String.toList_injective ?_, String.toList_injective ?_⟩
      · simpa using hgroup.symm
      · simpa using hname
  | cons dot rest =>
      obtain ⟨rfl, hrest⟩ := List.cons_eq_cons.mp hname
      exact Or.inr (takesFront_of_append hgroup hrest)

theorem Request.deploymentId_eq_iff {first second : Request} :
    first.deploymentId = second.deploymentId ↔ first.IsAlike second := by
  constructor
  · intro h
    have hlists := congrArg String.toList h
    rw [toList_deploymentId, toList_deploymentId] at hlists
    -- One group is the front of the other, and what it lacks is made up by its name.
    rcases List.append_eq_append_iff.mp hlists with ⟨more, hgroup, hname⟩ | ⟨more, hgroup, hname⟩
    · rcases same_or_takesFront hgroup hname with hsame | hfront
      · exact Or.inl hsame
      · exact Or.inr (Or.inl hfront)
    · rcases same_or_takesFront hgroup hname with ⟨hgroup, hname⟩ | hfront
      · exact Or.inl ⟨hgroup.symm, hname.symm⟩
      · exact Or.inr (Or.inr hfront)
  · rintro (⟨hgroup, hname⟩ | hfront | hfront)
    · rw [deploymentId, deploymentId, hgroup, hname]
    · exact hfront.deploymentId_eq
    · exact hfront.deploymentId_eq.symm

/-! ### Claims between calls -/

def KeepsClaims (world : World σ) (_ : List Event) (after : World σ) : Prop :=
  after.registry.reserved = world.registry.reserved

instance : IsFrame fun _ => (KeepsClaims : World σ → List Event → World σ → Prop) :=
  IsFrame.always (fun _ => rfl) (fun hdone hmore => hmore.trans hdone) (fun _ _ => rfl)
    fun _ _ _ => rfl

namespace Act

instance (thread : String) :
    IsAskFrame thread (KeepsClaims : World σ → List Event → World σ → Prop) :=
  isAskFrame_of (fun _ _ _ => rfl) fun _ _ _ => yields_note rfl

variable [Machine σ]

instance : IsStopFrame (KeepsClaims : World σ → List Event → World σ → Prop) where
  lose _ _ := yields_bind (yields_modify rfl (yields_note rfl))
  kill _ := kill_follows fun _ _ => rfl

/-- Behind any call the claims on ids are those from before it. -/
theorem operation_keepsClaims (deployer : Deployer) (operation : Operation) :
    (operation.act deployer : Act σ Unit).Follows fun _ => KeepsClaims := by
  have hforget (id : String) : (forget id : Act σ Unit).Follows fun _ => KeepsClaims :=
    fun _ => yields_modify rfl rfl
  refine operation_follows hforget deployer operation (fun request? _ => ?_) fun _ => ?_
  · intro world
    refine (deploy_yields deployer request? world).mono ?_
    intro outcome done after hdone
    cases outcome with
    | error fault => exact congrArg Registry.reserved hdone.1
    | ok id =>
        obtain ⟨request, instances, -, -, -, -, hregistry⟩ := hdone
        rw [KeepsClaims, hregistry]
  · exact shutdown_follows deployer (fun hregistry _ => congrArg Registry.reserved hregistry)
      (undeploy_follows hforget deployer)

end Act

variable [Machine σ] {deployer : Deployer}

theorem Operated.reserved_eq_nil {allows : Operation → Prop} {keeps : World σ → σ → Prop}
    {start world : World σ} (hstart : start.registry.reserved = [])
    (hrun : Operated deployer allows keeps start world) : world.registry.reserved = [] := by
  obtain ⟨done, -, hclaims⟩ :=
    hrun.follows fun operation _ => Act.operation_keepsClaims deployer operation
  exact hclaims.trans hstart

/-! ### Deployments that stand -/

structure Standing (reached : World σ → Prop) (deployer : Deployer) (world : World σ)
    (request : Request) (instances : List Instance) : Prop where
  visible : world.registry.get? request.deploymentId = some instances
  called : ∃ before done later, reached before ∧
    ((Act.deploy deployer (some request)).perform before).1 = .ok request.deploymentId ∧
    ((Act.deploy deployer (some request)).perform before).2.journal =
      done.reverse ++ before.journal ∧
    world.journal = later ++ done.reverse ++ before.journal ∧
    (launchesIn done).map (·.2) = instances.map (·.pid)

theorem Accounted.standing {reached : World σ → Prop} {world : World σ}
    (h : Accounted reached deployer world) {id : String} {instances : List Instance}
    (hget : world.registry.get? id = some instances) :
    ∃ request, request.deploymentId = id ∧ Standing reached deployer world request instances := by
  obtain ⟨request, before, done, later, hbefore, hok, hdone⟩ := (h id instances hget).called
  obtain ⟨_, -, hdeployed⟩ := Act.deploy_yields deployer (some request) before
  rw [hok] at hdeployed
  obtain ⟨other, _, hsame, rfl, -⟩ := hdeployed
  cases hsame
  exact ⟨request, rfl, hget, before, done, later, hbefore, hok, hdone⟩

/-! ### Instances that are stopped -/

/-- If an event ends a process or asks for its end, this is the process of one of some instances. -/
def Event.Concerns (instances : List Instance) : Event → Prop
  | .killed pid => ∃ i ∈ instances, i.pid = pid
  | .posted _ page _ => ∃ i ∈ instances, page = stopPage i.baseUrl
  | _ => True

def Spares (instances : List Instance) (_ : World σ) (done : List Event) (_ : World σ) : Prop :=
  ∀ event ∈ done, event.Concerns instances

omit [Machine σ] in
theorem spares_singleton {instances : List Instance} {world after : World σ} {event : Event}
    (h : event.Concerns instances) : Spares instances world [event] after := by
  intro other hmem
  rwa [List.mem_singleton.mp hmem]

theorem Event.concerns_of_quiet {instances : List Instance} {event : Event} (h : event.isQuiet) :
    event.Concerns instances := by
  cases event <;> trivial

instance (instances : List Instance) :
    IsFrame fun _ => (Spares instances : World σ → List Event → World σ → Prop) :=
  IsFrame.always (fun _ => by simp [Spares])
    (fun hdone hmore => List.forall_mem_append.mpr ⟨hdone, hmore⟩)
    (fun _ _ => by simp [Spares])
    fun _ _ hquiet => spares_singleton (Event.concerns_of_quiet hquiet)

namespace Act

variable {instances : List Instance}

theorem kill_spares {i : Instance} (hi : i ∈ instances) :
    (kill i.pid : Act σ Unit).Follows fun _ => Spares instances :=
  kill_follows fun _ _ => spares_singleton ⟨i, hi, rfl⟩

theorem requestStop_spares (thread : String) {i : Instance} (hi : i ∈ instances) (timeout : Rat) :
    (requestStop thread i.baseUrl timeout : Act σ Bool).Follows fun _ => Spares instances := by
  have hlose (id : String) : (lose id : Act σ Unit).Follows fun _ => Spares instances :=
    fun _ => yields_bind (yields_modify rfl (yields_note (spares_singleton trivial)))
  have hopens : (sessionOf thread : Act σ Nat).Follows fun _ => Spares instances :=
    sessionOf_follows (fun _ _ _ => spares_singleton trivial) thread
  have hpost (session : Nat) : (note (.posted session (stopPage i.baseUrl) timeout) :
      Act σ Unit).Follows fun _ => Spares instances :=
    fun _ => yields_note (spares_singleton ⟨i, hi, rfl⟩)
  exact requestStop_follows hlose (hopens.bind hpost)

/-- To undeploy an id stops nobody but the instances that are visible under it. -/
theorem undeploy_spares (deployer : Deployer) (id : String) (world : World σ) :
    (undeploy deployer id).Yields world fun _ done _ =>
      ∀ event ∈ done, event.Concerns ((world.registry.get? id).getD []) := by
  cases hget : world.registry.get? id with
  | none =>
      refine yields_bind (yields_bind_get ?_)
      rw [hget]
      exact yields_raise (by simp [Event.Concerns])
  | some instances =>
      have hstop : (stopInstances deployer instances : Act σ Unit).Follows
          fun _ => Spares instances :=
        stopInstances_follows deployer (fun i hi => requestStop_spares mainThread hi)
          fun i hi => kill_spares hi
      have hkill : (killLiving instances : Act σ Unit).Follows fun _ => Spares instances :=
        killLiving_follows fun i hi => kill_spares hi
      have hforget : (forget id : Act σ Unit).Follows fun _ => Spares instances :=
        fun _ => yields_modify rfl (by simp [Spares])
      have hclosing := hstop.ensuring (hkill.bind fun _ => hforget)
      have hall : (do
          log .info s!"Undeploying {id}"
          let _ ← ensuring (stopInstances deployer instances) do
            killLiving instances
            forget id : Act σ Unit).Follows fun _ => Spares instances :=
        (follows_log _ _).bind fun _ => hclosing.bind fun _ => follows_pure ()
      refine yields_bind ((instancesOf_yields hget).mono ?_)
      rintro _ _ _ ⟨rfl, rfl, rfl⟩
      exact hall world

/-- To undeploy an id takes no other deployment away; only others do. -/
theorem undeploy_keeps (deployer : Deployer) (id : String) (world : World σ) :
    (undeploy deployer id).Yields world fun _ done after => ∀ other, other ≠ id →
      .lost other ∉ done → after.registry.get? other = world.registry.get? other := by
  cases hget : world.registry.get? id with
  | none =>
      refine (undeploy_unknown_yields deployer hget).mono ?_
      rintro outcome done after ⟨-, hstops⟩ other -
      exact hstops.kept other fun hfalse => hfalse
  | some instances =>
      refine (undeploy_yields deployer hget).mono ?_
      rintro outcome done after ⟨-, hdone⟩ other hother
      split at hdone
      · exact hdone.2.kept other hother
      · exact hdone.2.kept other fun hfalse => hfalse

/-- Where no claim is left over, a deployment is refused for a visible one with the same id, or it
comes as far as its launches. -/
theorem deploy_refused_or_tried (deployer : Deployer) (request : Request) {world : World σ}
    (hreserved : world.registry.reserved = []) :
    (deploy deployer (some request)).Yields world fun outcome _ _ =>
      (request.deploymentId ∈ world.registry.ids ∧
        outcome = .error (.alreadyDeployed request.deploymentId)) ∨
      (request.deploymentId ∉ world.registry.ids ∧ ∃ claimed : World σ,
        claimed.machine = world.machine ∧ outcome =
          ((launchAll deployer request.deploymentId request).perform claimed).1.map
            fun _ => request.deploymentId) := by
  have hlaunches (claimed : World σ) :
      (launchAll deployer request.deploymentId request).Yields claimed fun outcome _ _ =>
        ((launchAll deployer request.deploymentId request).perform claimed).1 = outcome :=
    (launchAll_yields deployer request.deploymentId request claimed).located.mono
      fun _ _ _ h => congrArg Prod.fst h.1
  refine (deploy_around deployer request world fun claimed _ _ => hlaunches claimed).mono ?_
  rintro outcome done after (⟨htaken, rfl, -⟩ |
    ⟨⟨hfree, -⟩, claimed, result, middle, between, hmachine, -, rfl, -, -, -, hresult⟩)
  · rw [hreserved] at htaken
    exact Or.inl ⟨by simpa using htaken, rfl⟩
  · refine Or.inr ⟨hfree, claimed, hmachine, ?_⟩
    split at hresult
    · rename_i hok
      rw [hok]
      exact hresult.1
    · rename_i hfault
      rw [hfault]
      exact hresult.1

end Act

/-- Requests share an id exactly if they are alike. So whatever was done, a deployment is refused
for a visible one only if that was made for a request which is alike, and otherwise it comes as far
as its launches; and to undeploy an id stops nobody but the instances that are visible under it, and
keeps every deployment that was made for a request which is not alike. -/
theorem ids_shared_iff (deployer : Deployer) {start world : World σ}
    (hstart : start.registry = {}) (hrun : OperatedFreely deployer start world) :
    (∀ first second : Request, first.deploymentId = second.deploymentId ↔ first.IsAlike second) ∧
    (∀ id instances, world.registry.get? id = some instances → ∃ request,
      request.deploymentId = id ∧
        Standing (OperatedFreely deployer start) deployer world request instances) ∧
    (∀ request, (Act.deploy deployer (some request)).Yields world fun outcome _ _ =>
      (outcome = .error (.alreadyDeployed request.deploymentId) ∧ ∃ earlier instances,
        Standing (OperatedFreely deployer start) deployer world earlier instances ∧
          earlier.IsAlike request) ∨
      ((∀ earlier instances,
        Standing (OperatedFreely deployer start) deployer world earlier instances →
          ¬earlier.IsAlike request) ∧
        ∃ claimed : World σ, claimed.machine = world.machine ∧ outcome =
          ((Act.launchAll deployer request.deploymentId request).perform claimed).1.map
            fun _ => request.deploymentId)) ∧
    ∀ id, (Act.undeploy deployer id).Yields world fun _ done after =>
      (∀ event ∈ done, event.Concerns ((world.registry.get? id).getD [])) ∧
      ∀ request instances,
        Standing (OperatedFreely deployer start) deployer world request instances →
        (∀ earlier : Request, earlier.deploymentId = id → ¬earlier.IsAlike request) →
        after.registry.get? request.deploymentId = some instances ∨
          .lost request.deploymentId ∈ done := by
  have haccounted : Accounted (OperatedFreely deployer start) deployer world :=
    hrun.accounted (by rw [hstart])
  have hreserved : world.registry.reserved = [] := hrun.reserved_eq_nil (by rw [hstart])
  refine ⟨fun _ _ => Request.deploymentId_eq_iff, fun _ _ => haccounted.standing, fun request => ?_,
    fun id => ?_⟩
  · refine (Act.deploy_refused_or_tried deployer request hreserved).mono ?_
    rintro outcome done after (⟨hvisible, rfl⟩ | ⟨hfree, hlaunches⟩)
    · cases hget : world.registry.get? request.deploymentId with
      | none => exact absurd hvisible (Registry.get?_eq_none_iff.mp hget)
      | some instances =>
          obtain ⟨earlier, hsame, hstanding⟩ := haccounted.standing hget
          exact Or.inl ⟨rfl, earlier, instances, hstanding, Request.deploymentId_eq_iff.mp hsame⟩
    · refine Or.inr ⟨fun earlier instances hstanding halike => hfree ?_, hlaunches⟩
      rw [← Request.deploymentId_eq_iff.mpr halike]
      exact Registry.mem_ids_of_get? hstanding.visible
  · refine ((Act.undeploy_spares deployer id world).and
      (Act.undeploy_keeps deployer id world)).mono ?_
    rintro outcome done after ⟨hspares, hkeeps⟩
    refine ⟨hspares, fun request instances hstanding hother => ?_⟩
    by_cases hlost : .lost request.deploymentId ∈ done
    · exact Or.inr hlost
    · have hne : request.deploymentId ≠ id := by
        intro heq
        exact hother request heq (Or.inl ⟨rfl, rfl⟩)
      rw [hkeeps _ hne hlost]
      exact Or.inl hstanding.visible

/-! ### Dots in names -/

open Rehearsal

def dottedGroup : Request where
  definition := { name := "c" }
  resource := .file (.ofString "/app.py")
  deploymentProperties := [(groupProperty, "a.b")]

def dottedName : Request where
  definition := { name := "b.c" }
  resource := .file (.ofString "/other.py")
  deploymentProperties := [(groupProperty, "a")]

def Shelf.afterDotted : World Shelf :=
  (((Operation.deploy (some dottedGroup)).act swiftDeployer).perform { machine := {} }).2

theorem dotted_apps_share_id : dottedGroup.group ≠ dottedName.group ∧
    dottedGroup.definition.name ≠ dottedName.definition.name ∧
    dottedGroup.deploymentId = dottedName.deploymentId ∧
    ((Act.deploy swiftDeployer (some dottedName)).perform Shelf.afterDotted).1 =
      .error (.alreadyDeployed dottedName.deploymentId) ∧
    ∃ instances, Shelf.afterDotted.registry.get? dottedGroup.deploymentId = some instances ∧
      ∀ i ∈ instances, i.pid ∈ killsIn ((Act.undeploy swiftDeployer
        dottedName.deploymentId).perform Shelf.afterDotted).2.journal := by
  have hvisible : dottedName.deploymentId ∈ Shelf.afterDotted.registry.ids := by decide +kernel
  have hreserved : Shelf.afterDotted.registry.reserved = [] := by decide +kernel
  have hstopped : (Shelf.afterDotted.registry.get? dottedGroup.deploymentId).any fun instances =>
      instances.all fun i => (killsIn ((Act.undeploy swiftDeployer
        dottedName.deploymentId).perform Shelf.afterDotted).2.journal).contains i.pid := by
    decide +kernel
  refine ⟨by decide, by decide, by decide, ?_, ?_⟩
  · obtain ⟨_, -, ⟨-, hrefused⟩ | ⟨hfree, -⟩⟩ :=
      Act.deploy_refused_or_tried swiftDeployer dottedName hreserved
    · exact hrefused
    · exact absurd hvisible hfree
  · obtain ⟨instances, hget, hall⟩ := (Option.any_eq_true _ _).mp hstopped
    exact ⟨instances, hget, by simpa using hall⟩

def Shelf.afterBoth : World Shelf :=
  (((Operation.deploy (some greenApp)).act swiftDeployer).perform Shelf.afterDotted).2

theorem ids_shared_iff_dotted :
    OperatedFreely swiftDeployer { machine := ({} : Shelf) } Shelf.afterBoth ∧
      dottedGroup.IsAlike dottedName ∧ ¬dottedGroup.IsAlike greenApp ∧
      ∃ request instances, request.deploymentId = "default.app" ∧
        Standing (OperatedFreely swiftDeployer { machine := ({} : Shelf) }) swiftDeployer
          Shelf.afterBoth request instances ∧
        (Act.undeploy swiftDeployer "a.b.c").Yields Shelf.afterBoth fun _ _ after =>
          after.registry.get? "default.app" = some instances := by
  have hrun : OperatedFreely swiftDeployer { machine := ({} : Shelf) } Shelf.afterBoth :=
    .call _ trivial (.call _ trivial .start)
  have hvisible : "default.app" ∈ Shelf.afterBoth.registry.ids := by decide +kernel
  have hkept : lossesIn ((Act.undeploy swiftDeployer "a.b.c").perform
      Shelf.afterBoth).2.journal = [] := by
    decide +kernel
  obtain ⟨hids, hstanding, -, hundeploy⟩ := ids_shared_iff swiftDeployer rfl hrun
  refine ⟨hrun, (hids _ _).mp (by decide), mt (hids _ _).mpr (by decide), ?_⟩
  -- the world is computed above and must not be unfolded any more
  clear hrun
  generalize Shelf.afterBoth = world at hvisible hkept hstanding hundeploy ⊢
  obtain ⟨instances, hget⟩ : ∃ instances, world.registry.get? "default.app" = some instances :=
    Option.ne_none_iff_exists'.mp fun hnone => Registry.get?_eq_none_iff.mp hnone hvisible
  obtain ⟨request, hid, hrequest⟩ := hstanding _ instances hget
  obtain ⟨done, hjournal, -, hothers⟩ := hundeploy "a.b.c"
  refine ⟨request, instances, hid, hrequest, done, hjournal, ?_⟩
  have hother (earlier : Request) (hearlier : earlier.deploymentId = "a.b.c") :
      ¬earlier.IsAlike request := by
    intro halike
    have hsame := (hids earlier request).mpr halike
    rw [hearlier, hid] at hsame
    exact absurd hsame (by decide)
  rw [← hid]
  rcases hothers request instances hrequest hother with hstays | hlost
  · exact hstays
  · have hmem : Event.lost request.deploymentId ∈ ((Act.undeploy swiftDeployer "a.b.c").perform
        world).2.journal := by
      rw [hjournal]
      simp [hlost]
    have hnone := picked_eq_nil_iff.mp hkept _ hmem
    contradiction

end AppSupervisor
