import AppSupervisor.Proofs.Deploying
import AppSupervisor.Proofs.Loading
import AppSupervisor.Proofs.Stages
import AppSupervisor.Proofs.Undeploying

/-!
How a deployment may fail.

A caller expects one of four faults: a request that cannot be interpreted, an id that is taken,
files that cannot be used, or an instance that is not launched. Every other fault that is raised
gets out as it is, with one exception: refusals by the operating system become the third of the four
as long as files are accessed, which is until a port is drawn or a launch is tried.
-/

namespace AppSupervisor

open AppSupervisor.Files

variable {σ α β : Type}

/-- A fault was raised that is none of a deployment and does not become one: it is no refusal by the
operating system, or no file is accessed any more. -/
def Unforeseen (done : List Event) (fault : Fault) : Prop :=
  fault.isDeployment = false ∧ ∃ before after, done = before ++ .raised fault :: after ∧
    (fault.isSystem → ∃ event ∈ before, event.isLate)

/-- Where a fault comes from that is raised before a port is drawn or a launch is tried, by a
machine that was in some state when the deployment began. -/
inductive Preparation [Machine σ] (settings : Settings) (request : Request) (start : σ) :
    Fault → Prop
  | resolving {path : Path} {fault : Fault} (hresource : request.resource = .file path)
      (h : Machine.resolve path start = .error fault) : Preparation settings request start fault
  | looking {path resolved : Path} {fault : Fault} (hresource : request.resource = .file path)
      (hresolved : Machine.resolve path start = .ok resolved)
      (h : Machine.isFile resolved start = .error fault) : Preparation settings request start fault
  | provided {provider : String} {fault : Fault}
      (hresource : request.resource = .provided provider (.error fault)) :
      Preparation settings request start fault
  | pattern {text : String} {cause : Pattern.Fault}
      (hmem : text ∈ Command.patternsFor settings request)
      (h : Pattern.parse text = .error cause) (hcause : ∀ c at?, cause ≠ .malformed c at?) :
      Preparation settings request start (.accident (.pattern cause))
  | makingRoot {machine : σ} {fault : Fault}
      (h : (Machine.makeDirectories settings.root machine).1 = .error fault) :
      Preparation settings request start fault
  | makingDirectory {mayExist : Bool} {path : Path} {machine : σ} {fault : Fault}
      (h : (Machine.makeDirectory mayExist path machine).1 = .error fault) :
      Preparation settings request start fault
  | makingTemporary {name : String} {above : Path} {machine : σ} {fault : Fault}
      (h : (Machine.makeTemporary name above machine).1 = .error fault) :
      Preparation settings request start fault

inductive Origin [Machine σ] (settings : Settings) (request : Request) (start : σ) : Fault → Prop
  | preparing {fault : Fault} (hsystem : fault.isSystem = false)
      (h : Preparation settings request start fault) : Origin settings request start fault
  | probing {port : Int} {machine : σ} {fault : Fault}
      (h : (Machine.isPortFree port settings.host machine).1 = .error fault) :
      Origin settings request start fault
  | launching {order : LaunchOrder} {machine : σ} {fault : Fault}
      (h : (Machine.launch order machine).1 = .error fault) : Origin settings request start fault

/-! ### Faults in a request -/

theorem instanceCount_expected {properties : List (String × String)} {fault : Fault}
    (h : instanceCount properties = .error fault) : fault.isDeployment := by
  cases (instanceCount_eq_iff rfl).mp h <;> rfl

theorem checkDirectoryName_expected {name what : String} {fault : Fault}
    (h : checkDirectoryName name what = .error fault) : fault.isDeployment := by
  unfold checkDirectoryName at h
  split at h
  · contradiction
  · cases h
    rfl

theorem build_expected {settings : Settings} {request : Request} {artifact : Path} {fault : Fault}
    (h : Command.build settings request artifact = .error fault) : fault.isDeployment := by
  unfold Command.build at h
  cases htarget : Command.target request.deploymentProperties artifact with
  | ok target =>
      rw [htarget] at h
      cases h
  | error cause =>
      rw [htarget] at h
      cases h
      unfold Command.target at htarget
      split at htarget
      · contradiction
      · dsimp only at htarget
        split at htarget
        · cases htarget
          rfl
        · contradiction

theorem namedPort_expected {properties : List (String × String)} {arguments : List String}
    {fault : Fault} (h : namedPort properties arguments = .error fault) : fault.isDeployment := by
  obtain ⟨cause, rfl⟩ := namedPort_eq_error h
  rfl

/-- A malformed pattern is a fault of the deployment; one that fails to compile for another reason
is not. -/
theorem environmentFor_cases {settings : Settings} {environment : Command.Variables}
    {deploymentId : String} {request : Request} {fault : Fault}
    (h : Command.environmentFor settings environment deploymentId request = .error fault) :
    fault.isDeployment ∨ ∃ text ∈ Command.patternsFor settings request, ∃ cause,
      Pattern.parse text = .error cause ∧ (∀ c at?, cause ≠ .malformed c at?) ∧
        fault = .accident (.pattern cause) := by
  unfold Command.environmentFor Command.inherited at h
  cases hcompiled : (Command.patternsFor settings request).mapM Command.compile with
  | ok compiled =>
      rw [hcompiled] at h
      cases h
  | error cause =>
      rw [hcompiled] at h
      cases h
      obtain ⟨text, hmem, hfault⟩ := exists_of_mapM_error hcompiled
      unfold Command.compile at hfault
      split at hfault
      · contradiction
      · cases hfault
        exact Or.inl rfl
      · rename_i other hmalformed hparsed
        cases hfault
        exact Or.inr ⟨text, hmem, other, hparsed, hmalformed, rfl⟩

/-! ### Before the first launch -/

namespace Act

/-- Refusals by the operating system become faults of the deployment, and other faults stay. -/
theorem accessing_tells {act : Act σ α} {world : World σ} {ends : Fault → Prop}
    (h : act.Tells world .planning fun fault => fault.isSystem ∨ ends fault)
    (cause : String → AccessCause) (hends : ∀ cause, ends (.noAccess cause)) :
    (accessing cause act).Tells world .planning ends := by
  refine yields_bind_attempt (Yields.mono h fun outcome done between hdone => ?_)
  cases outcome with
  | ok a => exact yields_pure (hdone.forget.append (told_ok a))
  | error fault =>
      dsimp only
      by_cases hsystem : fault.isSystem
      · have hforeseen : Stage.planning.foresees fault := by simp [Stage.planning, hsystem]
        rw [if_pos hsystem]
        exact yields_throw ((hdone.pass hforeseen ()).append (told_thrown rfl (hends _)))
      · rw [if_neg hsystem]
        refine yields_throw ?_
        rw [List.append_nil]
        exact hdone.rethrow fun hfault => hfault.resolve_left hsystem

end Act

section Planning

variable [Machine σ] {settings : Settings} {request : Request} {start : σ} {fault : Fault}

def EndsPlanning (settings : Settings) (request : Request) (start : σ) (fault : Fault) : Prop :=
  fault.isDeployment ∨ (fault.isSystem = false ∧ Preparation settings request start fault)

theorem Stage.planning_covers_raised (fault : Fault) : planning.covers [.raised fault] := by
  simp [planning, Event.isLate]

/-- Where files are accessed, nothing but refusals by the operating system is let through. -/
theorem Preparation.refused_or_ends (h : Preparation settings request start fault) :
    fault.isSystem ∨ EndsPlanning settings request start fault := by
  by_cases hsystem : fault.isSystem
  · exact Or.inl hsystem
  · exact Or.inr (Or.inr ⟨by simpa using hsystem, h⟩)

namespace Act

variable {world : World σ}

theorem artifactFile_tells (hstart : world.machine = start) :
    (artifactFile request.resource : Act σ Path).Tells world .planning fun fault =>
      fault.isSystem ∨ EndsPlanning settings request start fault := by
  subst hstart
  cases hresource : request.resource with
  | file path =>
      refine tells_tryAskMachine (fun resolved hresolved => ?_) fun fault hfault => ?_
      · refine tells_tryAskMachine (fun isFile _ => ?_) fun fault hfault => ?_
        · split
          · exact tells_pure resolved
          · exact tells_raise (Stage.planning_covers_raised _) (Or.inl rfl)
        · have hlooking : Preparation settings request world.machine fault :=
            .looking hresource hresolved hfault
          exact ⟨Stage.planning_covers_raised fault, hlooking.refused_or_ends⟩
      · have hresolving : Preparation settings request world.machine fault :=
          .resolving hresource hfault
        exact ⟨Stage.planning_covers_raised fault, hresolving.refused_or_ends⟩
  | provided provider outcome =>
      unfold artifactFile
      dsimp only
      rw [map_eq_pure_bind]
      refine Tells.bind (tells_ofExcept fun fault hfault => ?_) fun text _ => tells_pure _
      subst hfault
      exact ⟨Stage.planning_covers_raised fault, (Preparation.provided hresource).refused_or_ends⟩

theorem makeDirectory_tells (mayExist : Bool) (path : Path) :
    (makeDirectory mayExist path : Act σ Unit).Tells world .planning fun fault =>
      fault.isSystem ∨ EndsPlanning settings request start fault := by
  refine Tells.bind (tells_tryMachine fun fault hfault => ?_) fun _ _ => ?_
  · exact ⟨Stage.planning_covers_raised fault,
      (Preparation.makingDirectory hfault).refused_or_ends⟩
  · exact tells_note rfl (Stage.plain _ rfl rfl)

theorem makeTemporary_tells (name : String) (above : Path) :
    (makeTemporary name above : Act σ Path).Tells world .planning fun fault =>
      fault.isSystem ∨ EndsPlanning settings request start fault := by
  refine Tells.bind (tells_tryMachine fun fault hfault => ?_) fun path _ => ?_
  · exact ⟨Stage.planning_covers_raised fault,
      (Preparation.makingTemporary hfault).refused_or_ends⟩
  · exact Tells.bind (tells_note rfl (Stage.plain _ rfl rfl)) fun _ _ => tells_pure path

theorem workRoot_tells :
    (workRoot settings : Act σ Path).Tells world .planning fun fault =>
      fault.isSystem ∨ EndsPlanning settings request start fault := by
  refine Tells.bind tells_get fun seen between => ?_
  cases seen.root with
  | some root => exact tells_pure root
  | none =>
      have hroot : (makeDirectories settings.root : Act σ Unit).Tells between .planning fun fault =>
          fault.isSystem ∨ EndsPlanning settings request start fault := by
        refine Tells.bind (tells_tryMachine fun fault hfault => ?_) fun _ _ => ?_
        · exact ⟨Stage.planning_covers_raised fault,
            (Preparation.makingRoot hfault).refused_or_ends⟩
        · exact tells_note rfl (Stage.plain _ rfl rfl)
      refine Tells.bind hroot fun _ _ => Tells.bind (makeTemporary_tells _ _) fun root _ => ?_
      exact Tells.bind (yields_modify rfl (told_ok ())) fun _ _ => tells_pure root

theorem makeWorkDirectory_tells (groupName deploymentId : String) :
    (makeWorkDirectory settings groupName deploymentId : Act σ Path).Tells world .planning
      fun fault => fault.isSystem ∨ EndsPlanning settings request start fault := by
  refine Tells.bind workRoot_tells fun root _ => ?_
  refine Tells.bind (makeDirectory_tells true _) fun _ between => ?_
  have hmaking : (makeDirectory false ((root.child groupName).child deploymentId) :
      Act σ Unit).Tells between .planning fun fault =>
        fault.isSystem ∨ EndsPlanning settings request start fault := makeDirectory_tells _ _
  refine yields_bind_attempt (Yields.mono hmaking fun outcome done after hdone => ?_)
  split
  · exact yields_pure (hdone.append (told_ok _))
  · -- the directory is there, which is foreseen
    exact Yields.mono (makeTemporary_tells _ _) fun _ _ _ hmore => (hdone.pass rfl ()).append hmore
  · refine yields_throw ?_
    rw [List.append_nil]
    exact hdone.rethrow id

theorem workDirectoryFor_tells (deploymentId : String) :
    (workDirectoryFor settings deploymentId request : Act σ Path).Tells world .planning
      (EndsPlanning settings request start) := by
  have hstart : ∀ between, (groupDirectoryName.startGroup request : Act σ String).Tells between
      .planning (EndsPlanning settings request start) := fun _ =>
    Tells.bind (tells_onMachine _) fun _ _ => tells_pure _
  have hname : (groupDirectoryName request : Act σ String).Tells world .planning
      (EndsPlanning settings request start) := by
    unfold groupDirectoryName
    split
    · split
      · exact hstart world
      · exact tells_pure _
    · exact hstart world
  refine Tells.bind hname fun groupName _ => ?_
  have hnamed : ∀ (name what : String) (between : World σ),
      (ofExcept (checkDirectoryName name what) : Act σ Unit).Tells between .planning
        (EndsPlanning settings request start) := by
    intro name what between
    exact tells_expected (fun _ => checkDirectoryName_expected) fun _ => Or.inl
  refine Tells.bind (hnamed _ _ _) fun _ _ => Tells.bind (hnamed _ _ _) fun _ _ => ?_
  exact accessing_tells (makeWorkDirectory_tells groupName deploymentId) _ fun _ => Or.inl rfl

theorem planFor_tells (environment : Command.Variables) (deploymentId : String)
    (hstart : world.machine = start) :
    (planFor settings environment deploymentId request).Tells world .planning
      (EndsPlanning settings request start) := by
  refine Tells.bind (accessing_tells (artifactFile_tells hstart) _ fun _ => Or.inl rfl)
    fun artifact _ => ?_
  refine Tells.bind (tells_expected (fun _ => build_expected) fun _ => Or.inl) fun command _ => ?_
  refine Tells.bind (tells_ofExcept fun fault hfault => ?_) fun shared _ => ?_
  · refine ⟨Stage.planning_covers_raised fault, ?_⟩
    rcases environmentFor_cases hfault with hexpected | ⟨text, hmem, cause, hparsed, hcause, rfl⟩
    · exact Or.inl hexpected
    · exact Or.inr ⟨rfl, .pattern hmem hparsed hcause⟩
  exact Tells.bind (workDirectoryFor_tells deploymentId) fun _ _ => tells_pure _

/-- While a plan is made, whatever is not foreseen comes from the request, the settings or the files
that are accessed. -/
theorem planFor_told (environment : Command.Variables) (deploymentId : String)
    (hstart : world.machine = start) :
    (planFor settings environment deploymentId request).Yields world fun outcome done _ =>
      Told .planning (EndsPlanning settings request start) outcome done ∧
        ∀ plan, outcome = .ok plan → plan.host = settings.host := by
  have htells : (planFor settings environment deploymentId request).Tells world .planning
      (EndsPlanning settings request start) := planFor_tells environment deploymentId hstart
  obtain ⟨done, hjournal, htold⟩ := htells
  refine ⟨done, hjournal, htold, fun plan hplan => ?_⟩
  have hperform : (planFor settings environment deploymentId request).perform world =
      (.ok plan, _) := Prod.ext hplan rfl
  obtain ⟨_, _, _, hperform⟩ := perform_bind_eq_ok hperform
  obtain ⟨_, _, _, hperform⟩ := perform_bind_eq_ok hperform
  obtain ⟨_, _, _, hperform⟩ := perform_bind_eq_ok hperform
  obtain ⟨_, _, _, hperform⟩ := perform_bind_eq_ok hperform
  cases hperform
  rfl

end Act

end Planning

/-! ### Launching -/

section Launching

variable [Machine σ] {settings : Settings} {request : Request} {start : σ}

def EndsDeploying (settings : Settings) (request : Request) (start : σ) (fault : Fault) : Prop :=
  fault.isDeployment ∨ Origin settings request start fault

namespace Act

variable {world : World σ}

theorem isPortFree_tells (port : Int) :
    (isPortFree port settings.host : Act σ Bool).Tells world .late
      (EndsDeploying settings request start) := by
  refine Tells.bind (tells_tryMachine fun fault hfault => ⟨trivial, ?_⟩) fun isFree _ => ?_
  · exact Or.inr (.probing hfault)
  · exact Tells.bind (tells_note rfl trivial) fun _ _ => tells_pure isFree

theorem draw_beginsLate (low high : Int) {ends : Fault → Prop} :
    (draw low high : Act σ Int).BeginsLate world ends := by
  refine yields_bind_onMachine (yields_bind_note (yields_pure ⟨?_, _, _, rfl, rfl⟩))
  exact (told_note rfl trivial).append (told_ok _)

theorem drawPort_yields (low high : Int) (excluded : List Int) (count : Nat) :
    (drawPort low high settings.host excluded count : Act σ (Option Int)).Yields world
      fun outcome done _ => Told .late (EndsDeploying settings request start) outcome done ∧
        (0 < count → LateFirst done) := by
  -- by induction on the draws left; the first one makes all that follows late
  induction count generalizing world with
  | zero => exact yields_pure ⟨told_ok none, by simp⟩
  | succ count ih =>
      have hcount : ∀ between, (drawPort low high settings.host excluded count :
          Act σ (Option Int)).Tells between .late (EndsDeploying settings request start) :=
        fun _ => Yields.mono ih fun _ _ _ hdone => hdone.1
      refine Yields.mono (BeginsLate.bind (draw_beginsLate low high) fun port between => ?_)
        fun _ _ _ hdone => ⟨hdone.1, fun _ => hdone.2⟩
      split
      · exact hcount between
      · refine Tells.bind (isPortFree_tells port) fun isFree between => ?_
        split
        · exact tells_pure (some port)
        · exact hcount between

theorem searchPort_tells (excluded : List Int) (port : Int) (count : Nat) :
    (searchPort settings.host excluded port count : Act σ (Option Int)).Tells world .late
      (EndsDeploying settings request start) := by
  induction count generalizing port world with
  | zero => exact tells_pure none
  | succ count ih =>
      unfold searchPort
      split
      · exact ih (port + 1)
      · refine Tells.bind (isPortFree_tells port) fun isFree between => ?_
        split
        · exact tells_pure (some port)
        · exact ih (port + 1)

theorem findPort_tells {low high : Int} (hrange : low ≤ high) (excluded : List Int) :
    (findPort low high settings.host excluded : Act σ Int).Tells world .launching
      (EndsDeploying settings request start) := by
  have hcount : 0 < (high - low + 1).toNat := by omega
  have hdrawn : (drawPort low high settings.host excluded (high - low + 1).toNat :
      Act σ (Option Int)).BeginsLate world (EndsDeploying settings request start) :=
    (drawPort_yields low high excluded _).mono fun _ _ _ hdone => ⟨hdone.1, hdone.2 hcount⟩
  refine BeginsLate.tells (hdrawn.bind fun drawn between => ?_)
  cases drawn with
  | some port => exact tells_pure port
  | none =>
      refine Tells.bind (searchPort_tells excluded low _) fun found _ => ?_
      cases found with
      | some port => exact tells_pure port
      | none => exact tells_raise trivial (Or.inl rfl)

theorem allocatePort_tells (allocated : List Int) (properties : List (String × String))
    (arguments : List String) :
    (allocatePort settings.host allocated properties arguments : Act σ (Int × List Int)).Tells
      world .launching (EndsDeploying settings request start) := by
  refine Tells.bind (tells_expected (fun _ => namedPort_expected) fun _ => Or.inl) fun named _ => ?_
  cases named with
  | some port => exact tells_pure _
  | none =>
      have hrange : firstPort ≤ (maxPort : Int) := by decide
      refine Tells.bind (findPort_tells hrange allocated) fun port _ => ?_
      exact Tells.bind (tells_log _ _) fun _ _ => tells_pure _

theorem launch_tells (order : LaunchOrder) :
    (launch order : Act σ Nat).Tells world .launching (EndsDeploying settings request start) := by
  refine BeginsLate.tells (yields_bind_onMachine ?_)
  split
  · refine yields_bind_note (yields_pure ⟨?_, _, _, rfl, rfl⟩)
    exact (told_note rfl trivial).append (told_ok _)
  · rename_i fault hlaunch
    have hraised : Told .late (EndsDeploying settings request start)
        (.error fault : Except Fault Nat) [.raised fault] :=
      told_raised trivial (Or.inr (.launching hlaunch))
    refine yields_bind_note (yields_raise ⟨?_, _, _, rfl, rfl⟩)
    exact (told_note rfl trivial).append hraised

theorem launchInstance_tells {plan : Plan} (hhost : plan.host = settings.host) (index : Nat)
    (allocated : List Int) : (launchInstance plan index allocated : Act σ _).Tells world .launching
      (EndsDeploying settings request start) := by
  unfold launchInstance
  rw [hhost]
  refine Tells.bind (allocatePort_tells _ _ _) fun allocation between => ?_
  have hlaunch : (launch (plan.order allocation.1 index) : Act σ Nat).Tells between .launching
      (EndsDeploying settings request start) := launch_tells _
  refine yields_bind_attempt (Yields.mono hlaunch fun outcome done after hdone => ?_)
  cases outcome with
  | ok pid =>
      refine yields_bind_note (yields_pure (hdone.append ?_))
      exact (told_note rfl (Stage.plain _ rfl rfl)).append (told_ok _)
  | error fault =>
      -- a failed launch is reported with its index, any other fault stays as it is
      refine yields_throw ?_
      cases fault with
      | launchFailed cause id? index? =>
          exact (hdone.pass rfl ()).append (told_thrown rfl (Or.inl rfl))
      | _ =>
          rw [List.append_nil]
          exact hdone.rethrow id

theorem killStarted_told (stage : Stage) (ends : Fault → Prop) (deploymentId : String)
    (started : List Instance) (world : World σ) :
    (killStarted deploymentId started).Yields world fun outcome done _ =>
      outcome = .ok () ∧ Told stage ends outcome done := by
  induction started generalizing world with
  | nil => exact yields_pure ⟨rfl, told_ok ()⟩
  | cons i rest ih =>
      refine yields_bind_note (yields_bind ((kill_yields i.pid _).mono ?_))
      rintro _ _ _ ⟨rfl, rfl, machine, rfl⟩
      refine (ih _).mono ?_
      rintro _ done after ⟨rfl, hdone⟩
      have hkilled : Told stage ends (.ok ()) (.killed i.pid :: done) :=
        (told_note rfl (stage.plain rfl rfl)).append hdone
      exact ⟨rfl, (told_note rfl (stage.plain rfl rfl)).append hkilled⟩

theorem launchMore_tells {plan : Plan} (hhost : plan.host = settings.host) (count : Nat)
    (started : List Instance) (allocated : List Int) :
    (launchMore plan count started allocated : Act σ (List Instance)).Tells world .launching
      (EndsDeploying settings request start) := by
  induction count generalizing started allocated world with
  | zero => exact tells_pure started
  | succ count ih =>
      have hfirst : (launchInstance plan started.length allocated : Act σ _).Tells world .launching
          (EndsDeploying settings request start) := launchInstance_tells hhost _ _
      refine yields_bind_attempt (Yields.mono hfirst fun outcome done between hdone => ?_)
      cases outcome with
      | ok launched =>
          exact Yields.mono (ih _ _) fun _ _ _ hmore => hdone.append hmore
      | error fault =>
          refine yields_bind ((killStarted_told .launching
            (EndsDeploying settings request start) plan.deploymentId started between).mono ?_)
          rintro _ killed after ⟨rfl, hkilled⟩
          refine yields_throw ?_
          rw [List.append_nil]
          exact (hdone.rethrow id).trail hkilled

end Act

end Launching

/-! ### Whole deployments -/

structure Explained (origin : Fault → Prop) (outcome : Except Fault α) (done : List Event) :
    Prop where
  ends : ∀ fault, Unforeseen done fault → outcome = .error fault
  faults : ∀ fault, outcome = .error fault →
    fault.isDeployment ∨ (Unforeseen done fault ∧ origin fault)

section Explained

variable [Machine σ] {settings : Settings} {request : Request} {start : σ}
  {origin : Fault → Prop} {outcome : Except Fault α} {done : List Event} {fault : Fault}

theorem Unforeseen.append (h : Unforeseen done fault) (more : List Event) :
    Unforeseen (done ++ more) fault := by
  obtain ⟨hdeployment, before, after, rfl, hlate⟩ := h
  exact ⟨hdeployment, before, after ++ more, by simp, hlate⟩

theorem Unforeseen.prepend (h : Unforeseen done fault) (first : List Event) :
    Unforeseen (first ++ done) fault := by
  obtain ⟨hdeployment, before, after, rfl, hlate⟩ := h
  refine ⟨hdeployment, first ++ before, after, by simp, fun hsystem => ?_⟩
  obtain ⟨event, hmem, hevent⟩ := hlate hsystem
  exact ⟨event, List.mem_append_right first hmem, hevent⟩

/-- While files are accessed, a fault that is unforeseen is no refusal, so it ends the stage. -/
theorem Told.eq_error_of_unforeseen {ends : Fault → Prop} (h : Told .planning ends outcome done)
    (hfault : Unforeseen done fault) : outcome = .error fault := by
  obtain ⟨hdeployment, before, after, rfl, hlate⟩ := hfault
  rcases h.raised fault (by simp) with hforeseen | hended
  · have hsystem : fault.isSystem := by simpa [Stage.planning, hdeployment] using hforeseen
    obtain ⟨event, hmem, hevent⟩ := hlate hsystem
    have hearly : event.isLate = false := h.covered event (by simp [hmem])
    simp [hearly] at hevent
  · exact hended

theorem Told.explained_of_planning
    (h : Told .planning (EndsPlanning settings request start) outcome done) :
    Explained (Origin settings request start) outcome done := by
  refine ⟨fun fault hfault => h.eq_error_of_unforeseen hfault, fun fault hfault => ?_⟩
  obtain ⟨hdeployment | ⟨hsystem, hprepared⟩, hraised⟩ := h.ends fault hfault
  · exact Or.inl hdeployment
  · by_cases hdeployment : fault.isDeployment
    · exact Or.inl hdeployment
    · have hmem : .raised fault ∈ done := by
        simpa [Stage.planning, hdeployment, hsystem] using hraised
      obtain ⟨before, after, hsplit⟩ := List.append_of_mem hmem
      have hunforeseen : Unforeseen done fault :=
        ⟨by simpa using hdeployment, before, after, hsplit, by simp [hsystem]⟩
      exact Or.inr ⟨hunforeseen, .preparing hsystem hprepared⟩

theorem Told.explained_of_launching
    (h : Told .launching (EndsDeploying settings request start) outcome done) :
    Explained (Origin settings request start) outcome done := by
  refine ⟨?_, fun fault hfault => ?_⟩
  · rintro fault ⟨hdeployment, before, after, rfl, -⟩
    rcases h.raised fault (by simp) with hforeseen | hended
    · have hforeseen : fault.isDeployment := hforeseen
      simp [hdeployment] at hforeseen
    · exact hended
  · obtain ⟨hdeployment | horigin, hraised⟩ := h.ends fault hfault
    · exact Or.inl hdeployment
    · by_cases hdeployment : fault.isDeployment
      · exact Or.inl hdeployment
      · have hmem : .raised fault ∈ done := hraised.resolve_left hdeployment
        obtain ⟨before, after, hsplit⟩ := List.append_of_mem hmem
        have hlate := (h.covered before fault after hsplit).resolve_left hdeployment
        exact Or.inr ⟨⟨by simpa using hdeployment, before, after, hsplit, fun _ => hlate⟩, horigin⟩

/-- What was planned with success, and what was refused on the way, is behind. -/
theorem Explained.prepend {ends : Fault → Prop} {b : β} {planned : List Event}
    (h : Explained origin outcome done) (hplanned : Told .planning ends (.ok b) planned) :
    Explained origin outcome (planned ++ done) := by
  refine ⟨?_, fun fault hfault => ?_⟩
  · rintro fault ⟨hdeployment, before, after, hsplit, hlate⟩
    rcases append_eq_append_cons hsplit with ⟨rest, hfirst, -⟩ | ⟨rest, rfl, hrest⟩
    · -- raised while planning, it would have ended the planning
      have hended := hplanned.eq_error_of_unforeseen ⟨hdeployment, before, rest, hfirst, hlate⟩
      contradiction
    · refine h.ends fault ⟨hdeployment, rest, after, hrest, fun hsystem => ?_⟩
      obtain ⟨event, hmem, hevent⟩ := hlate hsystem
      rcases List.mem_append.mp hmem with hmem | hmem
      · have hearly : event.isLate = false := hplanned.covered event hmem
        simp [hearly] at hevent
      · exact ⟨event, hmem, hevent⟩
  · refine (h.faults fault hfault).imp id ?_
    rintro ⟨hunforeseen, horigin⟩
    exact ⟨hunforeseen.prepend planned, horigin⟩

theorem Explained.extend {outcome' : Except Fault β} {more : List Event}
    (h : Explained origin outcome done)
    (hsame : ∀ fault, outcome' = .error fault ↔ outcome = .error fault)
    (hmore : ∀ fault, .raised fault ∉ more) : Explained origin outcome' (done ++ more) := by
  refine ⟨?_, fun fault hfault => ?_⟩
  · rintro fault ⟨hdeployment, before, after, hsplit, hlate⟩
    rcases append_eq_append_cons hsplit with ⟨rest, hfirst, -⟩ | ⟨rest, -, rfl⟩
    · exact (hsame fault).mpr (h.ends fault ⟨hdeployment, before, rest, hfirst, hlate⟩)
    · exact absurd (by simp) (hmore fault)
  · refine (h.faults fault ((hsame fault).mp hfault)).imp id ?_
    rintro ⟨hunforeseen, horigin⟩
    exact ⟨hunforeseen.append more, horigin⟩

end Explained

namespace Act

variable [Machine σ]

theorem launchAll_explained (deployer : Deployer) (deploymentId : String) (request : Request)
    (world : World σ) :
    (launchAll deployer deploymentId request).Yields world fun outcome done _ =>
      Explained (Origin deployer.settings request world.machine) outcome done := by
  refine yields_bind (yields_ofExcept (fun count _ => ?_) fun fault hfault => ?_)
  · refine yields_bind ((planFor_told deployer.environment deploymentId rfl).mono ?_)
    rintro outcome planned between ⟨hplanned, hhost⟩
    cases outcome with
    | error fault => exact (hplanned.rethrow id).explained_of_planning
    | ok plan =>
        have hlaunched : (launchMore plan count [] [] : Act σ (List Instance)).Tells between
            .launching (EndsDeploying deployer.settings request world.machine) :=
          launchMore_tells (hhost plan rfl) count [] []
        refine Yields.mono hlaunched fun outcome done after hdone => ?_
        exact hdone.explained_of_launching.prepend hplanned
  · have hexpected := instanceCount_expected hfault
    have htold : Told .launching (EndsDeploying deployer.settings request world.machine)
        (.error fault : Except Fault (List Instance)) [.raised fault] :=
      told_raised (Stage.expected _ hexpected) (Or.inl hexpected)
    exact htold.explained_of_launching

omit [Machine σ] in
/-- A claim is made before files are accessed, and the machine does not see it. -/
theorem reserve_told (id : String) (world : World σ) :
    (reserve id).Yields world fun outcome done after => after.machine = world.machine ∧
      Told .planning (fun fault => fault.isDeployment) outcome done := by
  refine yields_bind_get (yields_bind ?_)
  refine yields_ofExcept (fun claimed _ => ?_) fun fault hfault => ?_
  · exact yields_bind (yields_set rfl (yields_note ⟨rfl, told_note rfl (Stage.plain _ rfl rfl)⟩))
  · have hexpected : fault.isDeployment := by
      unfold Registry.reserve at hfault
      split at hfault
      · cases hfault
        rfl
      · contradiction
    exact ⟨rfl, told_raised (Stage.expected _ hexpected) hexpected⟩

/-- A deployment adds only the refusal of an id that is taken to what its launch may raise. -/
theorem deploy_explained (deployer : Deployer) (request : Request) (world : World σ) :
    (deploy deployer (some request)).Yields world fun outcome done _ =>
      Explained (Origin deployer.settings request world.machine) outcome done := by
  refine yields_bind ((reserve_told request.deploymentId world).mono ?_)
  rintro outcome claimed between ⟨hmachine, hclaimed⟩
  cases outcome with
  | error fault =>
      have hended : Told .planning (EndsPlanning deployer.settings request world.machine)
          (.error fault : Except Fault String) claimed := hclaimed.rethrow Or.inl
      exact hended.explained_of_planning
  | ok _ =>
      refine yields_bind_attempt ((launchAll_explained deployer _ request between).mono ?_)
      intro outcome done after hdone
      rw [hmachine] at hdone
      cases outcome with
      | ok instances =>
          refine yields_bind (yields_bind (yields_modify rfl (yields_note ?_)))
          refine yields_bind_note (yields_pure ?_)
          exact (hdone.extend (by simp) (by simp)).prepend hclaimed
      | error fault =>
          refine yields_bind (yields_modify rfl (yields_throw ?_))
          exact (hdone.extend (by simp) (by simp)).prepend hclaimed

/-- A deployment succeeds or ends with a fault of its own exactly where no fault was raised that is
unforeseen. Such a fault ends it as it is, and it comes from resolving or finding the artifact, from
a pattern that is well-formed but cannot be used, from making directories, from asking for a free
port, or from the launcher. -/
theorem deploy_explains_iff (deployer : Deployer) (request : Request) (world : World σ) :
    (deploy deployer (some request)).Yields world fun outcome done _ =>
      ((∀ fault, outcome = .error fault → fault.isDeployment) ↔
        ∀ fault, ¬Unforeseen done fault) ∧
      ∀ fault, Unforeseen done fault → outcome = .error fault ∧
        Origin deployer.settings request world.machine fault := by
  refine (deploy_explained deployer request world).mono fun outcome done after hdone => ?_
  refine ⟨⟨fun hall fault hraised => ?_, fun hnone fault hfault => ?_⟩, fun fault hraised => ?_⟩
  · have hdeployment := hall fault (hdone.ends fault hraised)
    simp [hraised.1] at hdeployment
  · exact (hdone.faults fault hfault).resolve_right fun hraised => hnone fault hraised.1
  · have hended := hdone.ends fault hraised
    have hnot : ¬fault.isDeployment := by simp [hraised.1]
    exact ⟨hended, ((hdone.faults fault hended).resolve_left hnot).2⟩

end Act

open Rehearsal

def Rehearsal.strangersApp : Request where
  definition := { name := "app" }
  resource := .file (.ofString "~nosuchuser/app.py")

/-- That a home directory is not known is not reported as a fault of the deployment. No launch was
tried, so the launcher has no part in it. -/
theorem deploy_unknownHome_escapes :
    ¬(Act.deploy swiftDeployer (some strangersApp)).Yields { machine := ({} : Rehearsal) }
      fun outcome done _ => (∀ order fault, .refusedLaunch order fault ∈ done →
        fault.isDeployment) → ∀ fault, outcome = .error fault → fault.isDeployment := by
  rintro ⟨done, hjournal, hexplained⟩
  have hescapes : ¬∀ fault, ((Act.deploy swiftDeployer (some strangersApp)).perform
      { machine := ({} : Rehearsal) }).1 = .error fault → fault.isDeployment := by
    decide +kernel
  have hnotries : triesIn ((Act.deploy swiftDeployer (some strangersApp)).perform
      { machine := ({} : Rehearsal) }).2.journal = [] := by
    decide +kernel
  refine hescapes (hexplained fun order fault hmem => ?_)
  have hnot : .refusedLaunch order fault ∉ ((Act.deploy swiftDeployer (some strangersApp)).perform
      { machine := ({} : Rehearsal) }).2.journal := not_refused_of_triesIn_eq_nil hnotries
  exact absurd (by simpa [hjournal] using hmem) hnot

end AppSupervisor
