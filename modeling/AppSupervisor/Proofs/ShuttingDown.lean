import AppSupervisor.Proofs.Undeploying

/-!
Shutting down: all deployments are undeployed, then directories are deleted and sessions closed.

Where every process can be asked, each single undeployment takes its deployment away, even one that
fails. But a failed one ends the loop, so what comes behind it is not reached: neither the other
deployments nor the cleanup. The loop is followed by an induction on the deployments still to come.
-/

namespace AppSupervisor

variable {σ : Type}

/-- A deployment that was visible is gone, with every instance killed or seen to have exited, unless
others took it. -/
def Stopped (id : String) (world : World σ) (done : List Event) (after : World σ) : Prop :=
  ∀ instances, world.registry.get? id = some instances → after.registry.get? id = none ∧
    ((∀ i ∈ instances, Ended done i.pid) ∨ .lost id ∈ done)

section Stopped

variable {forgotten : String → Prop} {id other : String} {world between after : World σ}
  {done more : List Event}

theorem Stopped.append (hdone : Stopped id world done between)
    (hmore : Stops forgotten between more after) : Stopped id world (done ++ more) after := by
  intro instances hget
  obtain ⟨hgone, hended⟩ := hdone instances hget
  refine ⟨hmore.gone id hgone, ?_⟩
  rcases hended with hended | hlost
  · exact Or.inl fun i hi => (hended i hi).append_left more
  · exact Or.inr (List.mem_append_left more hlost)

/-- What stops later was visible before another deployment was stopped, unless it was lost then. -/
theorem Stopped.prepend (hdone : Stops (· = id) world done between)
    (hmore : Stops forgotten between more after) (hstopped : Stopped other between more after)
    (hother : other ≠ id) : Stopped other world (done ++ more) after := by
  intro instances hget
  by_cases hlost : .lost other ∈ done
  · exact ⟨hmore.gone other (hdone.lost other hlost), Or.inr (List.mem_append_left more hlost)⟩
  · have hkept := (hdone.kept other hother hlost).trans hget
    obtain ⟨hgone, hended⟩ := hstopped instances hkept
    refine ⟨hgone, ?_⟩
    rcases hended with hended | hlost'
    · exact Or.inl fun i hi => (hended i hi).append_right done
    · exact Or.inr (List.mem_append_right done hlost')

/-- One deployment that stops in front of others. -/
theorem stopped_cons {reached : List String} (hdone : Stops (· = id) world done between)
    (hstopped : Stopped id world done between) (hmore : Stops (· ∈ reached) between more after)
    (hreached : ∀ other ∈ reached, Stopped other between more after) :
    (∀ other ∈ id :: reached, Stopped other world (done ++ more) after) ∧
      Stops (· ∈ id :: reached) world (done ++ more) after := by
  constructor
  · intro other hmem
    by_cases hother : other = id
    · rw [hother]
      exact hstopped.append hmore
    · have hin : other ∈ reached := (List.mem_cons.mp hmem).resolve_left hother
      exact Stopped.prepend hdone hmore (hreached other hin) hother
  · have hhead : Stops (· ∈ id :: reached) world done between :=
      hdone.mono fun other hother => List.mem_cons.mpr (Or.inl hother)
    have htail : Stops (· ∈ id :: reached) between more after :=
      hmore.mono fun other hother => List.mem_cons_of_mem id hother
    exact hhead.append htail

end Stopped

def AllStopped (world : World σ) (done : List Event) (after : World σ) : Prop :=
  ∀ id, Stopped id world done after

structure CleanedUp (deployer : Deployer) (world : World σ) (done : List Event)
    (after : World σ) : Prop where
  forgets : after.prober.toClose = []
  closes : ∀ session, world.prober.shared = some session ∨ session ∈ world.prober.toClose ∨
    .openedSession session ∈ done → .closedSession session ∈ done
  deletes : deployer.settings.deleteFilesOnExit → after.root = none ∧
    ∀ root, world.root = some root → .removedTree root ∈ done

/-- There is no session to close, and no directory to delete if the settings say so. -/
structure NothingToClean (deployer : Deployer) (world : World σ) (done : List Event) : Prop where
  shared : world.prober.shared = none
  toClose : world.prober.toClose = []
  opened : ∀ session, .openedSession session ∉ done
  root : deployer.settings.deleteFilesOnExit → world.root = none

/-- What a loop over deployments leaves that a fault ended early. The last deployment it reached
failed to undeploy; this one and those in front of it are gone, and nothing else was touched. -/
structure Abandoned [Machine σ] (deployer : Deployer) (fault : Fault) (reached : List String)
    (world : World σ) (done : List Event) (after : World σ) : Prop where
  failed : ∃ id, reached.getLast? = some id ∧ (∀ other, fault ≠ .notDeployed other) ∧
    ∃ between : World σ, ((Act.undeploy deployer id).perform between).1 = .error fault
  stopped : ∀ id ∈ reached, Stopped id world done after
  stops : Stops (· ∈ reached) world done after

theorem mem_openingsIn {done : List Event} {session : Nat} :
    session ∈ openingsIn done ↔ .openedSession session ∈ done := by
  constructor
  · intro hmem
    obtain ⟨event, hevent, hopening⟩ := List.mem_filterMap.mp hmem
    cases event <;> simp_all
  · exact fun hmem => List.mem_filterMap.mpr ⟨_, hmem, rfl⟩

/-- Where the cleanup was not reached, it is missed only if there was nothing to do. -/
theorem Stops.cleanedUp_iff {forgotten : String → Prop} {world after : World σ} {done : List Event}
    (h : Stops forgotten world done after) (deployer : Deployer) :
    CleanedUp deployer world done after ↔ NothingToClean deployer world done := by
  constructor
  · intro hclean
    have hclose := hclean.forgets
    rw [h.toClose, List.append_eq_nil_iff] at hclose
    refine ⟨?_, hclose.1, fun session hmem => ?_, fun hdelete => ?_⟩
    · cases hshared : world.prober.shared with
      | none => rfl
      | some session => exact absurd (hclean.closes session (Or.inl hshared)) (h.closes session)
    · exact h.closes session (hclean.closes session (Or.inr (Or.inr hmem)))
    · rw [← h.root]
      exact (hclean.deletes hdelete).1
  · intro hnothing
    have hopened : openingsIn done = [] := by
      refine List.eq_nil_iff_forall_not_mem.mpr fun session hmem => ?_
      exact hnothing.opened session (mem_openingsIn.mp hmem)
    refine ⟨?_, ?_, fun hdelete => ⟨?_, ?_⟩⟩
    · rw [h.toClose, hnothing.toClose, hopened, List.append_nil]
    · rintro session (hshared | hclose | hmem)
      · simp [hnothing.shared] at hshared
      · simp [hnothing.toClose] at hclose
      · exact absurd hmem (hnothing.opened session)
    · rw [h.root, hnothing.root hdelete]
    · simp [hnothing.root hdelete]

section Abandoned

variable [Machine σ] {deployer : Deployer} {fault : Fault} {reached : List String} {id : String}
  {world between after : World σ} {done more : List Event}

theorem Abandoned.cons (hdone : Stops (· = id) world done between)
    (hstopped : Stopped id world done between)
    (hmore : Abandoned deployer fault reached between more after) :
    Abandoned deployer fault (id :: reached) world (done ++ more) after := by
  obtain ⟨⟨last, hlast, hfailed⟩, hreached, hstops⟩ := hmore
  obtain ⟨hall, hwider⟩ := stopped_cons hdone hstopped hstops hreached
  exact ⟨⟨last, by simp [List.getLast?_cons, hlast], hfailed⟩, hall, hwider⟩

/-- What was not reached is gone only if others took it. -/
theorem Abandoned.allStopped_iff (h : Abandoned deployer fault reached world done after) :
    AllStopped world done after ↔ ∀ id ∈ world.registry.ids, id ∈ reached ∨ .lost id ∈ done := by
  constructor
  · intro hall id hid
    cases hget : world.registry.get? id with
    | none => exact absurd hid (Registry.get?_eq_none_iff.mp hget)
    | some instances =>
        by_cases hreached : id ∈ reached
        · exact Or.inl hreached
        · exact Or.inr ((h.stops.gone_iff_lost hget hreached).mp (hall id instances hget).1)
  · intro hlost id instances hget
    have hid : id ∈ world.registry.ids := Registry.mem_ids_of_get? hget
    rcases hlost id hid with hreached | hlost
    · exact h.stopped id hreached instances hget
    · exact ⟨h.stops.lost id hlost, Or.inr hlost⟩

end Abandoned

def Answers (σ : Type) [Machine σ] : Prop :=
  ∀ (pid : Nat) (machine : σ), (Machine.exitCode pid machine).1.isOk

namespace Act

theorem deleteWorkRoot_yields [Machine σ] (deployer : Deployer) (world : World σ) :
    (deleteWorkRoot deployer).Yields world fun outcome done after => outcome = .ok () ∧
      after.registry = world.registry ∧ after.prober = world.prober ∧ openingsIn done = [] ∧
      (deployer.settings.deleteFilesOnExit → after.root = none ∧
        ∀ root, world.root = some root → .removedTree root ∈ done) := by
  unfold deleteWorkRoot
  split
  · refine yields_bind_get ?_
    cases hroot : world.root with
    | none => exact yields_pure ⟨rfl, rfl, rfl, rfl, fun _ => ⟨hroot, by simp⟩⟩
    | some root =>
        refine yields_bind (yields_bind_onMachine (yields_note ?_))
        refine yields_bind_note (yields_modify rfl ⟨rfl, rfl, rfl, rfl, fun _ => ⟨rfl, ?_⟩⟩)
        rintro other ⟨⟩
        simp
  · rename_i hkeep
    exact yields_pure ⟨rfl, rfl, rfl, rfl, fun hdelete => absurd hdelete hkeep⟩

theorem closeSessions_yields (world : World σ) :
    (closeSessions : Act σ Unit).Yields world fun outcome done after => outcome = .ok () ∧
      after.registry = world.registry ∧ after.root = world.root ∧ after.prober.toClose = [] ∧
      openingsIn done = [] ∧ ∀ session, world.prober.shared = some session ∨
        session ∈ world.prober.toClose → .closedSession session ∈ done := by
  refine yields_bind_get (yields_bind (yields_modify rfl ((yields_forM_note _ _ _).mono ?_)))
  rintro outcome done after ⟨hok, hdone, rfl⟩
  refine ⟨hok, rfl, rfl, rfl, ?_, fun session hsession => ?_⟩
  · simp [hdone, picked_eq_nil_iff]
  · simpa [hdone] using hsession

/-- Where the loop ended well, the sessions to close are those from before and those it opened. -/
theorem cleanup_yields [Machine σ] {forgotten : String → Prop} {world between : World σ}
    {first : List Event} (deployer : Deployer) (h : Stops forgotten world first between) :
    (deleteWorkRoot deployer >>= fun _ => closeSessions : Act σ Unit).Yields between
      fun outcome more after => outcome = .ok () ∧ after.registry = between.registry ∧
        CleanedUp deployer world (first ++ more) after := by
  refine yields_bind ((deleteWorkRoot_yields deployer between).mono ?_)
  rintro _ deleting cleared ⟨rfl, hregistry, hprober, hopens, hdeletes⟩
  refine (closeSessions_yields cleared).mono ?_
  rintro _ closing after ⟨rfl, hregistry', hroot, hforgets, hopens', hcloses⟩
  refine ⟨rfl, hregistry'.trans hregistry, hforgets, fun session hsession => ?_, fun hdelete => ?_⟩
  · have hopened : .openedSession session ∈ first ++ (deleting ++ closing) →
        session ∈ openingsIn first := by
      intro hmem
      have hall := mem_openingsIn.mpr hmem
      simpa [hopens, hopens'] using hall
    have hknown : cleared.prober.shared = some session ∨ session ∈ cleared.prober.toClose := by
      rw [hprober, h.shared, h.toClose]
      rcases hsession with hshared | hclose | hopen
      · exact Or.inl hshared
      · exact Or.inr (List.mem_append_left _ hclose)
      · exact Or.inr (List.mem_append_right _ (hopened hopen))
    exact List.mem_append_right _ (List.mem_append_right _ (hcloses session hknown))
  · obtain ⟨hnone, hremoved⟩ := hdeletes hdelete
    refine ⟨hroot.trans hnone, fun root hworld => ?_⟩
    have hmem := hremoved root (h.root.trans hworld)
    exact List.mem_append_right _ (List.mem_append_left _ hmem)

variable [Machine σ]

theorem isAlive_ok (hanswers : Answers σ) (pid : Nat) (world : World σ) :
    (isAlive pid).Yields world fun outcome _ _ => ∃ alive, outcome = .ok alive := by
  refine (isAlive_yields pid world).mono ?_
  intro outcome done after hdone
  cases outcome with
  | ok alive => exact ⟨alive, rfl⟩
  | error fault => simpa [hdone, Except.isOk, Except.toBool] using hanswers pid world.machine

theorem killLiving_ok (hanswers : Answers σ) (instances : List Instance) (world : World σ) :
    (killLiving instances).Yields world fun outcome _ _ => outcome = .ok () := by
  induction instances generalizing world with
  | nil => exact yields_pure rfl
  | cons i rest ih =>
      refine yields_bind ((isAlive_ok hanswers i.pid world).mono ?_)
      rintro _ done between ⟨alive, rfl⟩
      cases alive with
      | true =>
          refine yields_bind ((kill_yields i.pid between).mono ?_)
          rintro _ _ after ⟨rfl, -⟩
          exact ih after
      | false => exact yields_bind (yields_pure (ih between))

/-- Where every process can be asked, an undeployment stops its deployment, even if it fails. -/
theorem undeploy_stopped (hanswers : Answers σ) (deployer : Deployer) (id : String)
    (world : World σ) :
    (undeploy deployer id).Yields world fun _ done after =>
      Stops (· = id) world done after ∧ Stopped id world done after := by
  cases hget : world.registry.get? id with
  | none =>
      refine (undeploy_unknown_yields deployer hget).mono ?_
      rintro outcome done after ⟨-, hstops⟩
      refine ⟨hstops.mono fun _ hfalse => hfalse.elim, fun instances hsome => ?_⟩
      simp [hget] at hsome
  | some instances =>
      have hpass : closingPass deployer id instances world = .ok () := by
        obtain ⟨_, _, hok⟩ := killLiving_ok hanswers instances
          (closingWorld deployer id instances world)
        exact hok
      refine (undeploy_yields deployer hget).mono ?_
      intro outcome done after hdone
      simp only [hpass] at hdone
      obtain ⟨hended, hgone, hstops⟩ := hdone
      refine ⟨hstops, fun others hothers => ⟨hgone, Or.inl ?_⟩⟩
      obtain rfl : instances = others := Option.some.inj (hget.symm.trans hothers)
      exact hended

/-- The loop over deployments stops all of them, or all up to the one whose undeployment failed. -/
theorem undeployAll_yields (hanswers : Answers σ) (deployer : Deployer) (ids : List String)
    (world : World σ) :
    (undeployAll deployer ids).Yields world fun outcome done after => match outcome with
      | .ok _ => (∀ id ∈ ids, Stopped id world done after) ∧ Stops (· ∈ ids) world done after
      | .error fault => ∃ reached, reached <+: ids ∧
          Abandoned deployer fault reached world done after := by
  induction ids generalizing world with
  | nil => exact yields_pure ⟨by simp, stops_refl⟩
  | cons id rest ih =>
      refine yields_bind_attempt ((undeploy_stopped hanswers deployer id world).located.mono ?_)
      rintro outcome first between ⟨hperform, hfirst, hstopped⟩
      -- what the rest of the loop yields, seen from the world in front of this deployment
      have hrest : (undeployAll deployer rest).Yields between fun outcome more after =>
          match outcome with
          | .ok _ => (∀ other ∈ id :: rest, Stopped other world (first ++ more) after) ∧
              Stops (· ∈ id :: rest) world (first ++ more) after
          | .error fault => ∃ reached, reached <+: id :: rest ∧
              Abandoned deployer fault reached world (first ++ more) after := by
        refine (ih between).mono ?_
        intro outcome more after hmore
        cases outcome with
        | ok _ => exact stopped_cons hfirst hstopped hmore.2 hmore.1
        | error fault =>
            obtain ⟨reached, hreached, habandoned⟩ := hmore
            exact ⟨id :: reached, List.cons_prefix_cons.mpr ⟨rfl, hreached⟩,
              habandoned.cons hfirst hstopped⟩
      split
      · exact hrest
      · exact hrest
      · rename_i fault hother
        refine yields_throw ⟨[id], by simp, ⟨id, rfl, hother, world, ?_⟩, ?_, ?_⟩
        · exact congrArg Prod.fst hperform
        · simpa using hstopped
        · simpa using hfirst

/-- A shutdown that does not fail reaches everything; one that fails stops where it failed. -/
theorem shutdown_yields (hanswers : Answers σ) (deployer : Deployer) (world : World σ) :
    (shutdown deployer).Yields world fun outcome done after => match outcome with
      | .ok _ => AllStopped world done after ∧ CleanedUp deployer world done after
      | .error fault => ∃ reached, reached <+: world.registry.ids ∧
          Abandoned deployer fault reached world done after := by
  refine yields_bind_get (yields_bind ((undeployAll_yields hanswers deployer _ world).mono ?_))
  intro outcome first between hfirst
  cases outcome with
  | error fault => exact hfirst
  | ok _ =>
      obtain ⟨hstopped, hstops⟩ := hfirst
      refine (cleanup_yields deployer hstops).mono ?_
      rintro _ more after ⟨rfl, hregistry, hclean⟩
      refine ⟨fun id instances hget => ?_, hclean⟩
      have hid : id ∈ world.registry.ids := Registry.mem_ids_of_get? hget
      obtain ⟨hgone, hended⟩ := hstopped id hid instances hget
      refine ⟨by rw [hregistry]; exact hgone, hended.imp (fun hended i hi => ?_) fun hlost => ?_⟩
      · exact (hended i hi).append_left more
      · exact List.mem_append_left more hlost

/-- A shutdown that does not fail stops all deployments and cleans up. One that fails gave up at the
first deployment whose undeployment failed; then all is stopped and cleaned up exactly if others
took the deployments that it did not reach and there was nothing to clean. -/
theorem shutdown_complete_iff (hanswers : Answers σ) (deployer : Deployer) (world : World σ) :
    (shutdown deployer).Yields world fun outcome done after => match outcome with
      | .ok _ => AllStopped world done after ∧ CleanedUp deployer world done after
      | .error fault => ∃ reached, reached <+: world.registry.ids ∧
          Abandoned deployer fault reached world done after ∧
          ((AllStopped world done after ∧ CleanedUp deployer world done after) ↔
            (∀ id ∈ world.registry.ids, id ∈ reached ∨ .lost id ∈ done) ∧
              NothingToClean deployer world done) := by
  refine (shutdown_yields hanswers deployer world).mono ?_
  intro outcome done after hdone
  cases outcome with
  | ok _ => exact hdone
  | error fault =>
      obtain ⟨reached, hreached, habandoned⟩ := hdone
      have hstopped := habandoned.allStopped_iff
      have hclean := habandoned.stops.cleanedUp_iff deployer
      exact ⟨reached, hreached, habandoned, and_congr hstopped hclean⟩

end Act

/-! ### Two deployments -/

open AppSupervisor.Files

/-- A machine on which whatever is asked for succeeds at once, and no process exits by itself. Only
a wait may be interrupted. -/
structure Obliging where
  isInterrupted : Bool

instance : Machine Obliging where
  now _ := 0
  sleep _ machine := (if machine.isInterrupted then .error .interrupted else .ok (), machine)
  stamp machine := (0, machine)
  draw low _ machine := (low, machine)
  isPortFree _ _ machine := (.ok true, machine)
  exitCode _ machine := (.ok none, machine)
  kill _ machine := machine
  httpGet _ _ machine := (⟨.ok 200, []⟩, machine)
  httpPost _ _ machine := (⟨.ok 200, []⟩, machine)
  launch _ machine := (.ok 1, machine)
  look _ _ := .ok .regular
  mayRead _ _ := true
  resolve path _ := .ok path
  isFile _ _ := .ok true
  makeDirectories _ machine := (.ok (), machine)
  makeDirectory _ _ machine := (.ok (), machine)
  makeTemporary start above machine := (.ok (above.child start), machine)
  removeTree _ machine := machine
  openFile _ machine := (.ok 0, machine)
  readFrom _ _ _ := []

theorem answers_obliging : Answers Obliging :=
  fun _ _ => rfl

open Rehearsal

def Obliging.twoDeployments (machine : Obliging) : World Obliging where
  machine
  registry :=
    { published := [("default.app", twoInstances.take 1), ("default.other", twoInstances.drop 1)] }
  root := some (.ofString "/tmp/work")
  prober := { toClose := [1] }

def patientDeployer : Deployer :=
  { swiftDeployer with settings.shutdownTimeout := 1 }

theorem shutdown_complete_obliging :
    Answers Obliging ∧ (Act.shutdown swiftDeployer).Yields (Obliging.mk false).twoDeployments
      fun _ done after => AllStopped (Obliging.mk false).twoDeployments done after ∧
        CleanedUp swiftDeployer (Obliging.mk false).twoDeployments done after := by
  have hok : ((Act.shutdown swiftDeployer).perform (Obliging.mk false).twoDeployments).1.isOk := by
    decide +kernel
  refine ⟨answers_obliging, ?_⟩
  refine (Act.shutdown_complete_iff answers_obliging swiftDeployer _).located.mono ?_
  rintro outcome done after ⟨hperform, hdone⟩
  rw [hperform] at hok
  cases outcome with
  | ok _ => exact hdone
  | error fault => simp [Except.isOk, Except.toBool] at hok

/-- An interrupt while the first deployment stops keeps the second one registered. -/
theorem shutdown_interrupted_incomplete :
    Answers Obliging ∧ ¬(Act.shutdown patientDeployer).Yields (Obliging.mk true).twoDeployments
      fun _ done after => AllStopped (Obliging.mk true).twoDeployments done after ∧
        CleanedUp patientDeployer (Obliging.mk true).twoDeployments done after := by
  refine ⟨answers_obliging, ?_⟩
  rintro ⟨done, -, hstopped, -⟩
  have hget : (Obliging.mk true).twoDeployments.registry.get? "default.other" =
      some (twoInstances.drop 1) := rfl
  have hgone := (hstopped "default.other" _ hget).1
  have hkept : "default.other" ∈ ((Act.shutdown patientDeployer).perform
      (Obliging.mk true).twoDeployments).2.registry.ids := by
    decide +kernel
  exact Registry.get?_eq_none_iff.mp hgone hkept

end AppSupervisor
