import AppSupervisor.Deployer.Launch
import AppSupervisor.Proofs.CountsAndPorts
import AppSupervisor.Proofs.Frame

/-!
What is done before an instance is launched: the plan of a deployment is settled and ports are
chosen.

None of it launches or kills a process or touches the registry, however it ends. If it succeeds, no
fault was raised on the way but that a working directory is there already, and the next that is done
about it is to make a directory with another name.
-/

namespace AppSupervisor

open AppSupervisor.Files

variable {σ α : Type}

structure Prepared (isOk : Bool) (world : World σ) (done : List Event) (after : World σ) :
    Prop where
  registry : after.registry = world.registry
  quiet : ∀ event ∈ done, event.isQuiet
  answered : isOk → Answered done

instance : IsFrame (Prepared : Bool → World σ → List Event → World σ → Prop) where
  refl _ _ := ⟨rfl, by simp, fun _ => answered_of_not_raised (by simp)⟩
  machine _ _ := ⟨rfl, by simp, fun _ => answered_of_not_raised (by simp)⟩
  quiet _ event hquiet hfault :=
    ⟨rfl, by simpa using hquiet, fun _ => answered_of_not_raised (by simpa using hfault)⟩
  fault _ _ := ⟨rfl, by simp [Event.isQuiet], by simp⟩
  trans hdone hmore := by
    refine ⟨hmore.registry.trans hdone.registry, ?_, fun hok => ?_⟩
    · exact List.forall_mem_append.mpr ⟨hdone.quiet, hmore.quiet⟩
    · exact (hdone.answered rfl).append (hmore.answered hok)

/-! ### Named ports -/

/-- Whether a port is named is known before it is read. -/
theorem namedPort_cases (properties : List (String × String)) (arguments : List String) :
    namedPort properties arguments = .ok none ∨
      ∃ value source, namedPort properties arguments = some <$> parsePort value source := by
  unfold namedPort
  split
  · exact Or.inr ⟨_, _, rfl⟩
  · split
    · exact Or.inr ⟨_, _, rfl⟩
    · exact Or.inl rfl

theorem namedPort_eq_ok {properties : List (String × String)} {arguments : List String}
    {port : Int} (h : namedPort properties arguments = .ok (some port)) :
    1 ≤ port ∧ port ≤ maxPort := by
  obtain hnone | ⟨value, source, hnamed⟩ := namedPort_cases properties arguments
  · rw [h] at hnone
    cases hnone
  · rw [h] at hnamed
    cases hparse : parsePort value source with
    | error fault => simp [hparse, Functor.map, Except.map] at hnamed
    | ok parsed =>
        obtain rfl : port = parsed := by simpa [hparse, Functor.map, Except.map] using hnamed
        exact parsePort_eq_ok hparse

theorem namedPort_eq_error {properties : List (String × String)} {arguments : List String}
    {fault : Fault} (h : namedPort properties arguments = .error fault) :
    ∃ cause, fault = .badRequest cause := by
  obtain hnone | ⟨value, source, hnamed⟩ := namedPort_cases properties arguments
  · rw [h] at hnone
    cases hnone
  · rw [h] at hnamed
    cases hparse : parsePort value source with
    | ok parsed => simp [hparse, Functor.map, Except.map] at hnamed
    | error other =>
        obtain rfl : fault = other := by simpa [hparse, Functor.map, Except.map] using hnamed
        exact parsePort_eq_error hparse

namespace Act

/-- A fault in files gets the words of its cause, and nothing else changes. -/
theorem yields_accessing {act : Act σ α} {cause : String → AccessCause} {world : World σ}
    {post : Except Fault α → List Event → World σ → Prop}
    (h : act.Yields world fun outcome done after => match outcome with
      | .ok a => post (.ok a) done after
      | .error _ => ∀ fault, post (.error fault) done after) :
    (accessing cause act).Yields world post := by
  refine yields_bind_attempt (h.mono fun outcome done after hdone => ?_)
  cases outcome with
  | error fault =>
      refine yields_throw ?_
      rw [List.append_nil]
      exact hdone _
  | ok a =>
      refine yields_pure ?_
      rw [List.append_nil]
      exact hdone

theorem Follows.accessing {R : Bool → World σ → List Event → World σ → Prop} {act : Act σ α}
    (hact : act.Follows R) (cause : String → AccessCause) : (accessing cause act).Follows R := by
  refine fun world => yields_accessing ((hact world).mono fun outcome done after hdone => ?_)
  cases outcome with
  | error fault => exact fun _ => hdone
  | ok a => exact hdone

variable [Machine σ]

/-! ### Ports -/

section Ports

variable {R : Bool → World σ → List Event → World σ → Prop} [IsWatched R]

theorem isPortFree_follows (port : Int) (host : String) :
    (isPortFree port host : Act σ Bool).Follows R :=
  (follows_tryOperation (.isPortFree port host)).bind fun isFree =>
    (follows_note rfl rfl).bind fun _ => follows_pure isFree

theorem draw_follows (low high : Int) : (draw low high : Act σ Int).Follows R :=
  (follows_operation (.draw low high)).bind fun value =>
    (follows_note rfl rfl).bind fun _ => follows_pure value

theorem drawPort_follows (low high : Int) (host : String) (excluded : List Int) (count : Nat) :
    (drawPort low high host excluded count : Act σ (Option Int)).Follows R := by
  induction count with
  | zero => exact follows_pure none
  | succ count ih =>
      refine (draw_follows low high).bind fun port => ?_
      split
      · exact ih
      · refine (isPortFree_follows port host).bind fun isFree => ?_
        split
        · exact follows_pure (some port)
        · exact ih

theorem searchPort_follows (host : String) (excluded : List Int) (port : Int) (count : Nat) :
    (searchPort host excluded port count : Act σ (Option Int)).Follows R := by
  induction count generalizing port with
  | zero => exact follows_pure none
  | succ count ih =>
      unfold searchPort
      split
      · exact ih (port + 1)
      · refine (isPortFree_follows port host).bind fun isFree => ?_
        split
        · exact follows_pure (some port)
        · exact ih (port + 1)

theorem findPort_follows (low high : Int) (host : String) (excluded : List Int) :
    (findPort low high host excluded : Act σ Int).Follows R := by
  refine (drawPort_follows low high host excluded _).bind fun drawn => ?_
  cases drawn with
  | some port => exact follows_pure port
  | none =>
      refine (searchPort_follows host excluded low _).bind fun found => ?_
      cases found with
      | some port => exact follows_pure port
      | none => exact follows_raise _

theorem allocatePort_follows (host : String) (allocated : List Int)
    (properties : List (String × String)) (arguments : List String) :
    (allocatePort host allocated properties arguments : Act σ (Int × List Int)).Follows R := by
  refine (follows_ofExcept _).bind fun named => ?_
  cases named with
  | some port => exact follows_pure _
  | none =>
      refine (findPort_follows _ _ _ _).bind fun port => ?_
      exact (follows_log _ _).bind fun _ => follows_pure _

end Ports

/-! ### Launches -/

/-- The loop over instances follows what launches and kills follow. -/
theorem launchMore_follows {R : World σ → List Event → World σ → Prop} [IsWatched fun _ => R]
    (hlaunch : ∀ order, (launch order : Act σ Nat).Follows fun _ => R)
    (hkill : ∀ pid, (kill pid : Act σ Unit).Follows fun _ => R) (plan : Plan) (count : Nat)
    (started : List Instance) (allocated : List Int) :
    (launchMore plan count started allocated : Act σ (List Instance)).Follows fun _ => R := by
  have hkillAll (started : List Instance) :
      (killStarted plan.deploymentId started : Act σ Unit).Follows fun _ => R := by
    induction started with
    | nil => exact follows_pure ()
    | cons i rest ih => exact (follows_log _ _).bind fun _ => (hkill i.pid).bind fun _ => ih
  induction count generalizing started allocated with
  | zero => exact follows_pure started
  | succ count ih =>
      have hnext : (launchInstance plan started.length allocated :
          Act σ (Instance × List Int)).Follows fun _ => R := by
        refine (allocatePort_follows _ _ _ _).bind fun allocation => ?_
        refine (hlaunch _).attempt.bind fun outcome => ?_
        split
        · exact (follows_log _ _).bind fun _ => follows_pure _
        · exact follows_throw _
      refine hnext.attempt.bind fun outcome => ?_
      split
      · exact ih _ _
      · exact (hkillAll started).bind fun _ => follows_throw _

/-! ### Working directories -/

section Directories

variable {R : Bool → World σ → List Event → World σ → Prop} [IsFrame R]

theorem makeTemporary_follows (start : String) (above : Path) :
    (makeTemporary start above : Act σ Path).Follows R :=
  (follows_tryMachine _).bind fun path =>
    (follows_quiet rfl rfl).bind fun _ => follows_pure path

theorem makeDirectory_follows (mayExist : Bool) (path : Path) :
    (makeDirectory mayExist path : Act σ Unit).Follows R :=
  (follows_tryMachine _).bind fun _ => follows_quiet rfl rfl

theorem workRoot_follows (hroot : ∀ world root, R true world [] { world with root })
    (settings : Settings) : (workRoot settings : Act σ Path).Follows R := by
  refine follows_get.bind fun world => ?_
  cases world.root with
  | some root => exact follows_pure root
  | none =>
      refine ((follows_tryMachine _).bind fun _ => follows_quiet rfl rfl).bind fun _ => ?_
      refine (makeTemporary_follows _ _).bind fun root => ?_
      have hremember : Act.Follows
          (modify fun world => { world with root := some root } : Act σ Unit) R :=
        fun world => yields_modify rfl (hroot world _)
      exact hremember.bind fun _ => follows_pure root

/-- The directory of a request follows what the making of it follows. -/
theorem workDirectoryFor_follows {settings : Settings} {deploymentId : String}
    (hmake : ∀ groupName,
      (makeWorkDirectory settings groupName deploymentId : Act σ Path).Follows R)
    (request : Request) :
    (workDirectoryFor settings deploymentId request : Act σ Path).Follows R := by
  have hstart : (groupDirectoryName.startGroup request : Act σ String).Follows R :=
    (follows_onMachine _).bind fun _ => follows_pure _
  have hgroup : (groupDirectoryName request : Act σ String).Follows R := by
    unfold groupDirectoryName
    split
    · split
      · exact hstart
      · exact follows_pure _
    · exact hstart
  refine hgroup.bind fun groupName => (follows_ofExcept _).bind fun _ => ?_
  exact (follows_ofExcept _).bind fun _ => (hmake groupName).accessing _

end Directories

/-- Where a directory is not made, the fault is all that is noted. -/
theorem makeDirectory_yields (mayExist : Bool) (path : Path) (world : World σ) :
    (makeDirectory mayExist path : Act σ Unit).Yields world fun outcome done after =>
      after.registry = world.registry ∧ match outcome with
      | .ok _ => done = [.madeDirectory path]
      | .error fault => done = [.raised fault] := by
  refine yields_bind (yields_tryMachine (fun made machine _ => ?_) fun fault machine _ => ?_)
  · exact yields_note ⟨rfl, rfl⟩
  · exact ⟨rfl, rfl⟩

theorem makeTemporary_yields (start : String) (above : Path) (world : World σ) :
    (makeTemporary start above : Act σ Path).Yields world fun outcome done after =>
      after.registry = world.registry ∧ match outcome with
      | .ok path => done = [.madeDirectory path]
      | .error fault => done = [.raised fault] := by
  refine yields_bind (yields_tryMachine (fun path machine _ => ?_) fun fault machine _ => ?_)
  · exact yields_bind_note (yields_pure ⟨rfl, rfl⟩)
  · exact ⟨rfl, rfl⟩

/-- A fault that is answered at once by making a directory. -/
theorem answered_makeDirectory (fault : Fault) (path : Path) :
    Answered [.raised fault, .madeDirectory path] := by
  intro before other after hsplit
  rcases before with _ | ⟨event, _ | ⟨event', rest⟩⟩
  · obtain ⟨-, rfl⟩ := List.cons_eq_cons.mp hsplit
    trivial
  · simp at hsplit
  · simp at hsplit

theorem makeWorkDirectory_prepared (settings : Settings) (groupName deploymentId : String) :
    (makeWorkDirectory settings groupName deploymentId : Act σ Path).Follows Prepared := by
  have hroot (world : World σ) (root : Option Path) : Prepared true world [] { world with root } :=
    ⟨rfl, by simp, fun _ => answered_of_not_raised (by simp)⟩
  refine (workRoot_follows hroot settings).bind fun root => ?_
  refine (makeDirectory_follows true _).bind fun _ world => ?_
  refine yields_bind_attempt ((makeDirectory_yields false _ world).mono ?_)
  rintro outcome done between ⟨hregistry, hdone⟩
  split
  · subst hdone
    refine yields_pure ⟨hregistry, by simp [Event.isQuiet], fun _ => ?_⟩
    exact answered_of_not_raised (by simp)
  · -- the directory is there: that is the one fault that a request survives
    subst hdone
    refine (makeTemporary_yields _ _ between).mono ?_
    rintro outcome more after ⟨hregistry', hmore⟩
    cases outcome with
    | ok path =>
        subst hmore
        exact ⟨hregistry'.trans hregistry, by simp [Event.isQuiet],
          fun _ => answered_makeDirectory _ path⟩
    | error fault =>
        subst hmore
        exact ⟨hregistry'.trans hregistry, by simp [Event.isQuiet],
          by simp [Except.isOk, Except.toBool]⟩
  · subst hdone
    exact yields_throw ⟨hregistry, by simp [Event.isQuiet], by simp [Except.isOk, Except.toBool]⟩

theorem workDirectoryFor_prepared (settings : Settings) (deploymentId : String)
    (request : Request) :
    (workDirectoryFor settings deploymentId request : Act σ Path).Follows Prepared :=
  workDirectoryFor_follows
    (fun groupName => makeWorkDirectory_prepared settings groupName deploymentId) request

/-! ### Plans -/

theorem artifactFile_follows {R : Bool → World σ → List Event → World σ → Prop} [Composes R]
    (resource : Resource) : (artifactFile resource : Act σ Path).Follows R := by
  cases resource with
  | file path =>
      refine (follows_tryAskMachine _).bind fun resolved => ?_
      refine (follows_tryAskMachine _).bind fun isFile => ?_
      split
      · exact follows_pure resolved
      · exact follows_raise _
  | provided provider outcome => exact (follows_ofExcept outcome).map _

/-- A plan follows what the making of its directory follows. -/
theorem planFor_follows {R : Bool → World σ → List Event → World σ → Prop} [Composes R]
    {settings : Settings} {deploymentId : String} {request : Request}
    (hworkDir : (workDirectoryFor settings deploymentId request : Act σ Path).Follows R)
    (environment : Command.Variables) :
    (planFor settings environment deploymentId request : Act σ Plan).Follows R := by
  refine ((artifactFile_follows request.resource).accessing _).bind fun artifact => ?_
  refine (follows_ofExcept _).bind fun command => (follows_ofExcept _).bind fun shared => ?_
  exact hworkDir.bind fun _ => follows_pure _

theorem planFor_prepared (settings : Settings) (environment : Command.Variables)
    (deploymentId : String) (request : Request) :
    (planFor settings environment deploymentId request : Act σ Plan).Follows Prepared :=
  planFor_follows (workDirectoryFor_prepared settings deploymentId request) environment

/-- A plan is that of the deployment it was made for. -/
theorem planFor_yields (settings : Settings) (environment : Command.Variables)
    (deploymentId : String) (request : Request) (world : World σ) :
    (planFor settings environment deploymentId request).Yields world fun outcome done after =>
      after.registry = world.registry ∧ (∀ event ∈ done, event.isQuiet) ∧
        ∀ plan, outcome = .ok plan → plan.deploymentId = deploymentId ∧ Answered done := by
  obtain ⟨done, hjournal, hregistry, hquiet, hanswered⟩ :=
    planFor_prepared settings environment deploymentId request world
  refine ⟨done, hjournal, hregistry, hquiet, fun plan hplan => ?_⟩
  have hok : (planFor settings environment deploymentId request).perform world |>.1.isOk := by
    rw [hplan]
    rfl
  refine ⟨?_, hanswered hok⟩
  have hperform : (planFor settings environment deploymentId request).perform world =
      (.ok plan, _) := Prod.ext hplan rfl
  obtain ⟨_, _, _, hperform⟩ := perform_bind_eq_ok hperform
  obtain ⟨_, _, _, hperform⟩ := perform_bind_eq_ok hperform
  obtain ⟨_, _, _, hperform⟩ := perform_bind_eq_ok hperform
  obtain ⟨_, _, _, hperform⟩ := perform_bind_eq_ok hperform
  cases hperform
  rfl

end Act

end AppSupervisor
