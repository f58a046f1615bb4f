import AppSupervisor.Proofs.Operations
import AppSupervisor.Proofs.WorkDirectories

/-!
Working directories are never given twice.

A working directory is made where none was, and between two shutdowns none is taken away. So each
one that was made stands in the way of the next: an induction over the calls carries that all of
them still stand. Output files lie in working directories, and there each instance has its own.
-/

namespace AppSupervisor

open AppSupervisor.Files

variable {σ : Type}

/-! ### Output files -/

def logsIn (done : List Event) : List Path :=
  (launchesIn done).flatMap fun launch =>
    [(logPaths launch.1.workDir launch.1.index).1, (logPaths launch.1.workDir launch.1.index).2]

@[simp]
theorem logsIn_append (done more : List Event) :
    logsIn (done ++ more) = logsIn done ++ logsIn more := by
  simp [logsIn]

theorem logsIn_of_triesIn_eq_nil {done : List Event} (h : triesIn done = []) :
    logsIn done = [] := by
  simp [logsIn, launchesIn_of_triesIn_eq_nil h]

theorem numbered_injective {front back : String} {m n : Nat}
    (h : front ++ toString m ++ back = front ++ toString n ++ back) : m = n := by
  refine toString_injective (String.toList_injective ?_)
  simpa [String.toList_append] using congrArg String.toList h

theorem stdout_ne_stderr (m n : Nat) :
    "stdout_" ++ toString m ++ ".log" ≠ "stderr_" ++ toString n ++ ".log" := by
  intro h
  simpa [String.toList_append] using congrArg String.toList h

/-- The output files of instances with different indices in one working directory differ. -/
theorem nodup_logs (workDir : Path) (count : Nat) :
    ((List.range count).flatMap fun index : Nat =>
      [(logPaths workDir index).1, (logPaths workDir index).2]).Nodup := by
  simp only [logPaths_eq]
  refine List.nodup_flatMap.mpr ⟨fun index _ => ?_, ?_⟩
  · simp [Path.below_inj]
  · refine List.nodup_range.imp fun {m n} hne => List.disjoint_left.mpr fun path hleft hright => ?_
    rcases List.mem_pair.mp hleft with rfl | rfl <;> rcases List.mem_pair.mp hright with h | h <;>
      have hname := (Path.below_inj.mp h).2
    · exact hne (numbered_injective hname)
    · exact stdout_ne_stderr m n hname
    · exact stdout_ne_stderr n m hname.symm
    · exact hne (numbered_injective hname)

theorem mem_triesIn_of_mem_launchesIn {done : List Event} {order : LaunchOrder} {pid : Nat}
    (h : (order, pid) ∈ launchesIn done) : order ∈ triesIn done :=
  List.mem_filterMap.mpr ⟨_, mem_launchesIn.mp h, rfl⟩

/-- The launches of one plan write to different files in its working directory. -/
theorem Ordered.logs {plan : Plan} {done : List Event} (h : Ordered plan 0 done) :
    (logsIn done).Nodup ∧ ∀ path ∈ logsIn done, ∃ order ∈ triesIn done, ∃ name,
      path = order.workDir.below [name] := by
  have hplaces : (launchesIn done).map (fun launch => (launch.1.workDir, launch.1.index)) =
      (List.range (launchesIn done).length).map fun index : Nat =>
        (plan.workDir, (index : Int)) := by
    refine List.ext_getElem? fun place => ?_
    rcases hlaunch : (launchesIn done)[place]? with _ | ⟨order, pid⟩
    · simp [List.getElem?_eq_none_iff.mp hlaunch]
    · obtain ⟨port, rfl⟩ := h.launches place order pid hlaunch
      obtain ⟨hlt, -⟩ := List.getElem?_eq_some_iff.mp hlaunch
      rw [List.getElem?_map, List.getElem?_map, List.getElem?_range hlt, hlaunch]
      simp [Plan.order]
  constructor
  · have hlogs : logsIn done = (List.range (launchesIn done).length).flatMap fun index : Nat =>
        [(logPaths plan.workDir index).1, (logPaths plan.workDir index).2] := by
      have hfiles := congrArg (List.flatMap fun place : Path × Int =>
        [(logPaths place.1 place.2).1, (logPaths place.1 place.2).2]) hplaces
      rwa [List.flatMap_map, List.flatMap_map] at hfiles
    rw [hlogs]
    exact nodup_logs plan.workDir _
  · intro path hmem
    obtain ⟨⟨order, pid⟩, hlaunch, hpath⟩ := List.mem_flatMap.mp hmem
    have htried := mem_triesIn_of_mem_launchesIn hlaunch
    obtain ⟨port, index, rfl⟩ := h.tries order htried
    refine ⟨_, htried, ?_⟩
    simp only [logPaths_eq, Plan.order] at hpath ⊢
    rcases List.mem_pair.mp hpath with rfl | rfl <;> exact ⟨_, rfl⟩

/-! ### Directories that stay -/

def workDirsIn (root : Path) (done : List Event) : List Path :=
  (madeIn done).filter fun path => path.parts.length == root.parts.length + 2

@[simp]
theorem workDirsIn_append (root : Path) (done more : List Event) :
    workDirsIn root (done ++ more) = workDirsIn root done ++ workDirsIn root more := by
  simp [workDirsIn]

theorem workDirsIn_of_madeIn_eq_nil {done : List Event} (h : madeIn done = []) (root : Path) :
    workDirsIn root done = [] := by
  simp [workDirsIn, h]

/-- A directory is made new only where none stands, and nothing that a machine is asked for takes
one away from below a directory that it made with a new name. -/
structure Stores [Machine σ] (stands : σ → Path → Prop) : Prop where
  own : ∀ {path : Path} {before after : σ},
    Machine.makeDirectory false path before = (.ok (), after) →
      ¬stands before path ∧ stands after path
  other : ∀ {start : String} {above path : Path} {before after : σ},
    Machine.makeTemporary start above before = (.ok path, after) →
      ¬stands before path ∧ stands after path
  keeps : ∀ {root : Path} {before after : σ}, IsTemporary σ root → Machine.Goes before after →
    ∀ names, stands before (root.below names) → stands after (root.below names)

section Storage

variable [Machine σ] {stands : σ → Path → Prop} {settings : Settings} {request : Request}
  {world after : World σ} {done more : List Event} {workDir? : Option Path}

theorem Stores.keeps_of_reaches (hstores : Stores stands) {root : Path} {before after : σ}
    (hroot : IsTemporary σ root) (hreaches : Machine.Reaches before after) {names : List String}
    (h : stands before (root.below names)) : stands after (root.below names) := by
  induction hreaches with
  | refl => exact h
  | tail _ hgoes ih => exact hstores.keeps hroot hgoes names ih

theorem MadeAnew.fresh (hstores : Stores stands) {above path : Path} {id : String}
    {before after : σ} (h : MadeAnew above id path before after) :
    ¬stands before path ∧ stands after path := by
  cases h with
  | own hpath hmade => exact hstores.own (hpath ▸ hmade)
  | other hmade => exact hstores.other hmade

theorem Housed.reaches (h : Housed settings request world done after workDir?) :
    Machine.Reaches world.machine after.machine := by
  cases h with
  | unfiled hunfiled => exact hunfiled.reaches
  | filed _ _ _ _ hreaches => exact hreaches

theorem Opens.eq_of_root {root other : Path} {front : List Path}
    (h : Opens settings world root front) (hother : world.root = some other) : other = root := by
  cases h with
  | known hroot => exact Option.some.inj (hother.symm.trans hroot)
  | made hnone => simp [hnone] at hother

/-- A root that is known stays, and without one no directory is made. -/
theorem Housed.root (h : Housed settings request world done after workDir?) :
    (∀ root, world.root = some root → after.root = some root) ∧
      (after.root = none → madeIn done = [] ∧ workDir? = none) := by
  cases h with
  | unfiled hunfiled => exact ⟨fun root => hunfiled.root.trans, fun _ => ⟨hunfiled.made, rfl⟩⟩
  | filed _ _ _ _ _ hfiled =>
      generalize madeIn done = made at hfiled ⊢
      cases hfiled with
      | idle hafter => exact ⟨fun root => hafter.trans, fun _ => ⟨rfl, rfl⟩⟩
      | opened hopens hafter | complete hopens hafter =>
          refine ⟨fun root hroot => ?_, fun hnone => ?_⟩
          · rw [hopens.eq_of_root hroot, hafter]
          · rw [hafter] at hnone
            contradiction

/-- Of the directories that are made, only the working directory is two levels down. -/
theorem Housed.workDirs (h : Housed settings request world done after workDir?)
    (hnames : NamesInPlace σ) (hroot : ∀ root, world.root = some root → IsTemporary σ root) :
    ∀ root, after.root = some root → workDirsIn root done = workDir?.toList := by
  unfold workDirsIn
  cases h with
  | unfiled hunfiled => simp [hunfiled.made]
  | @filed groupName _ hgroup hname hid _ _ hfiled =>
      generalize madeIn done = made at hfiled ⊢
      cases hfiled with
      | idle => simp
      | @opened root front rest hopens hafter hrest =>
          rintro other hother
          obtain rfl := Option.some.inj (hafter.symm.trans hother)
          rcases hrest with rfl | rfl <;> cases hopens <;> simp [hname.child, Path.below]
      | @complete root path front _ _ hopens hafter hanew =>
          rintro other hother
          obtain rfl := Option.some.inj (hafter.symm.trans hother)
          obtain ⟨name, -, -, rfl⟩ := hanew.below hnames (hopens.isTemporary hroot) hname hid
          cases hopens <;> simp [hname.child, Path.below]

/-- The working directory was not there when it was made. -/
theorem Housed.fresh (h : Housed settings request world done after workDir?)
    (hstores : Stores stands) {path : Path} (hpath : workDir? = some path) :
    ∃ before behind, Machine.Reaches world.machine before ∧ ¬stands before path ∧
      stands behind path ∧ Machine.Reaches behind after.machine := by
  subst hpath
  cases h with
  | filed _ _ _ _ _ hfiled =>
      generalize madeIn done = made at hfiled
      cases hfiled with
      | complete _ _ hanew hbefore hbehind =>
          obtain ⟨hnew, hstands⟩ := hanew.fresh hstores
          exact ⟨_, _, hbefore, hnew, hstands, hbehind⟩

/-! ### What a run keeps -/

/-- What is known of the directories that were made and of the files in them. All working
directories are different and still stand, so that none is made again. -/
structure Distinct (stands : σ → Path → Prop) (world : World σ) (done : List Event) : Prop where
  temporary : ∀ root, world.root = some root → IsTemporary σ root
  unrooted : world.root = none → madeIn done = [] ∧ triesIn done = []
  nodup : ∀ root, world.root = some root → (workDirsIn root done).Nodup
  stand : ∀ root, world.root = some root → ∀ path ∈ workDirsIn root done,
    stands world.machine path ∧ ∃ names, path = root.below names
  tries : ∀ root, world.root = some root → ∀ order ∈ triesIn done,
    order.workDir ∈ workDirsIn root done
  logs : (logsIn done).Nodup
  placed : ∀ path ∈ logsIn done, ∃ order ∈ triesIn done, ∃ name, path = order.workDir.below [name]

theorem distinct_nil (hroot : ∀ root, world.root = some root → IsTemporary σ root) :
    Distinct stands world [] where
  temporary := hroot
  unrooted _ := ⟨rfl, rfl⟩
  nodup := by simp [workDirsIn]
  stand := by simp [workDirsIn]
  tries := by simp
  logs := by simp [logsIn]
  placed := by simp [logsIn]

/-- Where nothing is made and nothing launched, it is enough that what stands below the root goes on
to stand. -/
theorem Distinct.idle (h : Distinct stands world done) (hroot : after.root = world.root)
    (hmade : madeIn more = []) (htries : triesIn more = [])
    (hkeeps : ∀ root names, world.root = some root → stands world.machine (root.below names) →
      stands after.machine (root.below names)) : Distinct stands after (done ++ more) := by
  have hdirs := workDirsIn_of_madeIn_eq_nil hmade
  have hlogs := logsIn_of_triesIn_eq_nil htries
  exact {
    temporary := by simpa [hroot] using h.temporary
    unrooted := by simpa [hroot, hmade, htries] using h.unrooted
    nodup := by simpa [hroot, hdirs] using h.nodup
    stand := by
      intro root hsome path hmem
      rw [hroot] at hsome
      have hmem' : path ∈ workDirsIn root done := by simpa [hdirs] using hmem
      obtain ⟨hstands, names, rfl⟩ := h.stand root hsome path hmem'
      exact ⟨hkeeps root names hsome hstands, names, rfl⟩
    tries := by simpa [hroot, hdirs, htries] using h.tries
    logs := by simpa [hlogs] using h.logs
    placed := by simpa [hlogs, htries] using h.placed }

/-- A root that is new has no directory in it yet. -/
theorem Distinct.root_cases (h : Distinct stands world done)
    (hkept : ∀ root, world.root = some root → after.root = some root) {root : Path}
    (hroot : after.root = some root) :
    world.root = some root ∨ workDirsIn root done = [] ∧ triesIn done = [] := by
  cases hworld : world.root with
  | none =>
      obtain ⟨hmade, htries⟩ := h.unrooted hworld
      exact Or.inr ⟨workDirsIn_of_madeIn_eq_nil hmade root, htries⟩
  | some other => exact Or.inl ((hkept other hworld).symm.trans hroot)

/-- What stands is not made again. -/
theorem Distinct.apart (h : Distinct stands world done) (hstores : Stores stands)
    (hhoused : Housed settings request world more after workDir?) {root path : Path}
    (hroot : world.root = some root) (hmem : path ∈ workDirsIn root done) :
    workDir? ≠ some path := by
  intro hpath
  obtain ⟨hstands, names, rfl⟩ := h.stand root hroot path hmem
  obtain ⟨before, -, hreaches, hnew, -⟩ := hhoused.fresh hstores hpath
  exact hnew (hstores.keeps_of_reaches (h.temporary root hroot) hreaches hstands)

/-- Behind a deployment its working directory stands, and so do all that stood before. -/
theorem Distinct.stand_housed (h : Distinct stands world done) (hnames : NamesInPlace σ)
    (hstores : Stores stands) (hhoused : Housed settings request world more after workDir?)
    {root path : Path} (hroot : after.root = some root)
    (hpath : path ∈ workDirsIn root done ∨ workDir? = some path) :
    stands after.machine path ∧ ∃ names, path = root.below names := by
  obtain ⟨htemporary, -, hbelow⟩ := hhoused.placed hnames h.temporary
  rcases hpath with hold | hpath
  · rcases h.root_cases hhoused.root.1 hroot with hworld | ⟨hempty, -⟩
    · obtain ⟨hstands, names, rfl⟩ := h.stand root hworld path hold
      have hstill := hstores.keeps_of_reaches (h.temporary root hworld) hhoused.reaches hstands
      exact ⟨hstill, names, rfl⟩
    · simp [hempty] at hold
  · obtain ⟨-, other, hother, groupName, name, -, -, -, -, rfl⟩ := hbelow path hpath
    obtain rfl := Option.some.inj (hroot.symm.trans hother)
    obtain ⟨_, behind, -, -, hstands, hreaches⟩ := hhoused.fresh hstores hpath
    exact ⟨hstores.keeps_of_reaches (htemporary root hroot) hreaches hstands, _, rfl⟩

/-- The step of the invariant: a working directory that a deployment adds was not there, so it
differs from all before it. -/
theorem Distinct.housed (h : Distinct stands world done) (hnames : NamesInPlace σ)
    (hstores : Stores stands) (hhoused : Housed settings request world more after workDir?)
    (htries : ∀ order ∈ triesIn more, workDir? = some order.workDir) (hlogs : (logsIn more).Nodup)
    (hplaced : ∀ path ∈ logsIn more, ∃ order ∈ triesIn more, ∃ name,
      path = order.workDir.below [name]) : Distinct stands after (done ++ more) := by
  obtain ⟨hkept, hnone⟩ := hhoused.root
  have hworkDirs : ∀ root, after.root = some root →
      workDirsIn root (done ++ more) = workDirsIn root done ++ workDir?.toList := by
    intro root hroot
    rw [workDirsIn_append, hhoused.workDirs hnames h.temporary root hroot]
  exact {
    temporary := (hhoused.placed hnames h.temporary).1
    unrooted := by
      intro hafter
      have hworld : world.root = none :=
        Option.eq_none_iff_forall_ne_some.mpr fun root hroot => by simp [hkept root hroot] at hafter
      obtain ⟨hmade, rfl⟩ := hnone hafter
      have hnotries : triesIn more = [] :=
        List.eq_nil_iff_forall_not_mem.mpr fun order hmem => by simpa using htries order hmem
      simpa [hmade, hnotries] using h.unrooted hworld
    nodup := by
      intro root hroot
      rw [hworkDirs root hroot]
      rcases h.root_cases hkept hroot with hworld | ⟨hempty, -⟩
      · refine (h.nodup root hworld).append (by cases workDir? <;> simp) fun path hold hnew => ?_
        exact h.apart hstores hhoused hworld hold (by simpa using hnew)
      · cases workDir? <;> simp [hempty]
    stand := by
      intro root hroot path hmem
      rw [hworkDirs root hroot, List.mem_append, Option.mem_toList] at hmem
      exact h.stand_housed hnames hstores hhoused hroot hmem
    tries := by
      intro root hroot order hmem
      rw [hworkDirs root hroot]
      rw [triesIn, picked_append] at hmem
      rcases List.mem_append.mp hmem with hold | hnew
      · rcases h.root_cases hkept hroot with hworld | ⟨-, hempty⟩
        · exact List.mem_append_left _ (h.tries root hworld order hold)
        · simp [hempty] at hold
      · exact List.mem_append_right _ (by simp [htries order hnew])
    logs := by
      -- a file tells the directory that it is in, and no two calls share one
      rw [logsIn_append]
      refine h.logs.append hlogs fun path hold hnew => ?_
      obtain ⟨order, hmem, name, rfl⟩ := h.placed path hold
      obtain ⟨other, hmem', name', hpath⟩ := hplaced _ hnew
      cases hworld : world.root with
      | none => simp [(h.unrooted hworld).2] at hmem
      | some root =>
          refine h.apart hstores hhoused hworld (h.tries root hworld order hmem) ?_
          rw [(Path.below_inj.mp hpath).1, htries other hmem']
    placed := by
      intro path hmem
      rw [logsIn_append] at hmem
      rcases List.mem_append.mp hmem with hold | hnew
      · exact (h.placed path hold).imp fun order hpath => ⟨by simp [hpath.1], hpath.2⟩
      · exact (hplaced path hnew).imp fun order hpath => ⟨by simp [hpath.1], hpath.2⟩ }

end Storage

/-! ### Calls -/

namespace Act

variable [Machine σ]

instance : IsStopFrame (Unfiled : World σ → List Event → World σ → Prop) where
  lose _ _ := yields_bind (yields_modify rfl (yields_note ⟨rfl, rfl, rfl, .refl⟩))
  kill := kill_unfiled

instance (thread : String) : IsAskFrame thread (Unfiled : World σ → List Event → World σ → Prop) :=
  isAskFrame_of (fun _ _ _ => ⟨rfl, rfl, rfl, .refl⟩) fun event hrequest world =>
    yields_note (unfiled_note event (by cases event <;> first | contradiction | rfl))

/-- Whatever is neither a deployment nor a shutdown makes no directory and launches nothing. -/
theorem operation_unfiled (deployer : Deployer) {operation : Operation}
    (hdeploy : ∀ request?, operation ≠ .deploy request?) (hshutdown : operation ≠ .shutdown)
    (world : World σ) :
    (operation.act deployer : Act σ Unit).Yields world fun _ done after =>
      Unfiled world done after ∧ triesIn done = [] := by
  have hunfiled : (operation.act deployer : Act σ Unit).Follows fun _ => Unfiled :=
    operation_follows (fun _ _ => yields_modify rfl ⟨rfl, rfl, rfl, .refl⟩) deployer operation
      (fun _ h => absurd h (hdeploy _)) fun h => absurd h hshutdown
  have hstops : (operation.act deployer : Act σ Unit).Follows fun _ => Stops fun _ => True := by
    refine operation_follows (fun id world => ?_) deployer operation
      (fun _ h => absurd h (hdeploy _)) fun h => absurd h hshutdown
    refine (forget_yields id world).mono ?_
    rintro outcome done after ⟨-, rfl, -, hstops⟩
    exact hstops.mono fun _ _ => trivial
  exact ((hunfiled world).and (hstops world)).mono
    fun _ _ _ ⟨hunfiled, hstops⟩ => ⟨hunfiled, hstops.tries⟩

/-- The launches of a deployment write to different files in the directories that they were tried
in. -/
theorem deploy_logs (deployer : Deployer) (request : Request) (world : World σ) :
    (deploy deployer (some request)).Yields world fun _ done _ => (logsIn done).Nodup ∧
      ∀ path ∈ logsIn done, ∃ order ∈ triesIn done, ∃ name,
        path = order.workDir.below [name] := by
  refine (deploy_around deployer request world fun claimed _ _ =>
    launchAll_planned deployer request.deploymentId request claimed).mono ?_
  rintro outcome done after (⟨-, -, htalk, -⟩ |
    ⟨-, claimed, result, middle, between, -, -, hplanned, haround, -⟩)
  · simp [logsIn_of_triesIn_eq_nil (picked_of_talk Event.try?_of_talk htalk)]
  · have hlogs : logsIn done = logsIn middle := by
      rw [logsIn, launchesIn, haround.picked Event.launch?_of_talk]
      rfl
    rw [hlogs, triesIn, haround.picked Event.try?_of_talk]
    rcases hplanned with ⟨hnotries, -⟩ | ⟨plan, count, -, hordered, -⟩
    · simp [logsIn_of_triesIn_eq_nil hnotries]
    · exact hordered.logs

/-- Every call but a shutdown keeps the working directories and the output files apart. -/
theorem operation_distinct {stands : σ → Path → Prop} (hnames : NamesInPlace σ)
    (hstores : Stores stands) (deployer : Deployer) {operation : Operation}
    (hshutdown : operation ≠ .shutdown) {world : World σ} {done : List Event}
    (h : Distinct stands world done) :
    (operation.act deployer : Act σ Unit).Yields world fun _ more after =>
      Distinct stands after (done ++ more) := by
  have hidle : ∀ {more : List Event} {after : World σ}, Unfiled world more after →
      triesIn more = [] → Distinct stands after (done ++ more) := by
    intro more after hunfiled htries
    refine h.idle hunfiled.root hunfiled.made htries fun root names hroot hstands => ?_
    exact hstores.keeps_of_reaches (h.temporary root hroot) hunfiled.reaches hstands
  refine operation_yields (fun request? => ?_) fun hdeploy => ?_
  · cases request? with
    | none => exact yields_raise (hidle (unfiled_note _ rfl) rfl)
    | some request =>
        refine ((deploy_housed deployer request world).and
          (deploy_logs deployer request world)).mono ?_
        rintro outcome more after ⟨⟨workDir?, hhoused, -, htries⟩, hlogs, hplaced⟩
        exact h.housed hnames hstores hhoused htries hlogs hplaced
  · refine (operation_unfiled deployer hdeploy hshutdown world).mono ?_
    exact fun outcome more after ⟨hunfiled, htries⟩ => hidle hunfiled htries

end Act

def KeepsBelow (stands : σ → Path → Prop) (world : World σ) (machine : σ) : Prop :=
  ∀ root names, world.root = some root → stands world.machine (root.below names) →
    stands machine (root.below names)

/-- Between two shutdowns, no two working directories are the same, instances work nowhere else,
and no two output files of launched processes are the same. -/
theorem directories_fresh [Machine σ] {stands : σ → Path → Prop} (hnames : NamesInPlace σ)
    (hstores : Stores stands) (deployer : Deployer) {start world : World σ}
    (hroot : ∀ root, start.root = some root → IsTemporary σ root)
    (hrun : Operated deployer (· ≠ .shutdown) (KeepsBelow stands) start world) :
    ∃ done, world.journal = done.reverse ++ start.journal ∧ (logsIn done).Nodup ∧
      (world.root = none → madeIn done = [] ∧ triesIn done = []) ∧
      ∀ root, world.root = some root → (workDirsIn root done).Nodup ∧
        ∀ order ∈ triesIn done, order.workDir ∈ workDirsIn root done := by
  -- that the directories still stand is what makes the next one differ, so it is carried along
  suffices hdistinct : ∃ done, world.journal = done.reverse ++ start.journal ∧
      Distinct stands world done by
    obtain ⟨done, hjournal, h⟩ := hdistinct
    exact ⟨done, hjournal, h.logs, h.unrooted,
      fun root hroot => ⟨h.nodup root hroot, h.tries root hroot⟩⟩
  induction hrun with
  | start => exact ⟨[], rfl, distinct_nil hroot⟩
  | call operation hshutdown _ ih =>
      obtain ⟨done, hjournal, h⟩ := ih
      obtain ⟨more, hmore, h'⟩ := Act.operation_distinct hnames hstores deployer hshutdown h
      exact ⟨done ++ more, by simp [hmore, hjournal], h'⟩
  | @pass world machine hkeeps _ ih =>
      obtain ⟨done, hjournal, h⟩ := ih
      have h' : Distinct stands { world with machine } (done ++ []) := h.idle rfl rfl rfl hkeeps
      exact ⟨done, hjournal, by simpa using h'⟩

/-! ### A redeployment -/

theorem Shelf.make_eq_ok {path made : Path} {before after : Shelf}
    (h : before.make path = (.ok made, after)) :
    made = path ∧ path ∉ before.directories ∧ path ∈ after.directories := by
  unfold make at h
  split at h
  · cases h
  · rename_i hnew
    cases h
    exact ⟨rfl, hnew, by simp⟩

theorem Shelf.mem_make {path other : Path} {shelf : Shelf} (h : other ∈ shelf.directories) :
    other ∈ (shelf.make path).2.directories := by
  unfold make
  split
  · exact h
  · exact List.mem_cons_of_mem path h

theorem stores_shelf : Stores fun (shelf : Shelf) path => path ∈ shelf.directories where
  own {path before after} hmade := by
    have hmake : ((before.make path).1.map fun _ => (), (before.make path).2) =
        (.ok (), after) := by
      simpa [Machine.makeDirectory] using hmade
    rcases h : before.make path with ⟨fault | made, next⟩
    · simp [h, Except.map] at hmake
    · obtain ⟨-, hnew, hstands⟩ := Shelf.make_eq_ok h
      obtain rfl : next = after := by simpa [h, Except.map] using hmake
      exact ⟨hnew, hstands⟩
  other hmade := by
    obtain ⟨rfl, hnew, hstands⟩ := Shelf.make_eq_ok hmade
    exact ⟨hnew, hstands⟩
  keeps {root before after} _ hgoes names hmem := by
    cases hgoes with
    | makeTemporary start above => exact Shelf.mem_make hmem
    | makeDirectory mayExist path =>
        simp only [Machine.makeDirectory]
        split
        · exact hmem
        · exact Shelf.mem_make hmem
    | _ => exact hmem

open Rehearsal

def Shelf.afterRedeployment : World Shelf :=
  [Operation.deploy (some greenApp), .undeploy "default.app", .deploy (some greenApp)].foldl
    (fun world operation => ((operation.act swiftDeployer).perform world).2) { machine := {} }

theorem directories_fresh_redeployed :
    NamesInPlace Shelf ∧ (Stores fun (shelf : Shelf) path => path ∈ shelf.directories) ∧
      ∃ root done, Shelf.afterRedeployment.root = some root ∧
        Shelf.afterRedeployment.journal = done.reverse ∧
        (workDirsIn root done).Nodup ∧ (workDirsIn root done).length = 2 ∧
        (logsIn done).Nodup ∧ (logsIn done).length = 8 := by
  have hroot : ∀ root, ({ machine := {} } : World Shelf).root = some root →
      IsTemporary Shelf root := by simp
  have hkept : Operated swiftDeployer (· ≠ .shutdown) (KeepsBelow fun shelf path =>
      path ∈ shelf.directories) { machine := ({} : Shelf) } Shelf.afterRedeployment :=
    .call _ (by simp) (.call _ (by simp) (.call _ (by simp) .start))
  obtain ⟨done, hjournal, hlogs, -, hdirs⟩ :=
    directories_fresh namesInPlace_shelf stores_shelf swiftDeployer hroot hkept
  have hdone : done = Shelf.afterRedeployment.journal.reverse := by simp [hjournal]
  have hafter : Shelf.afterRedeployment.root = some (.ofString "/tmp/appdeck-0") := by
    decide +kernel
  refine ⟨namesInPlace_shelf, stores_shelf, _, done, hafter, by simpa using hjournal,
    (hdirs _ hafter).1, ?_, hlogs, ?_⟩
  · rw [hdone]
    decide +kernel
  · rw [hdone]
    decide +kernel

end AppSupervisor
