import AppSupervisor.Proofs.Components
import AppSupervisor.Proofs.FileTrees
import AppSupervisor.Proofs.Variables
import AppSupervisor.Rehearsal.Shell.Host

/-!
Output files that belong to one instance only.

Both output files are made before a process is started, and each of them only where nothing stands.
So a launch never touches what is there: at most it adds empty files, and it gives up before it
starts anything if one of the two names is taken.
-/

namespace AppSupervisor

open AppSupervisor.Files

structure Traced (σ : Type) where
  host : σ
  starts : List (ChildOrder × Except Fault Nat)

instance {σ : Type} [ChildHost σ] : ChildHost (Traced σ) where
  createNew path traced :=
    let (outcome, host) := ChildHost.createNew path traced.host
    (outcome, { traced with host })
  start order traced :=
    let (outcome, host) := ChildHost.start order traced.host
    (outcome, ⟨host, traced.starts ++ [(order, outcome)]⟩)
  poll pid traced :=
    let (code?, host) := ChildHost.poll pid traced.host
    (code?, { traced with host })
  sendKill pid traced :=
    let (outcome, host) := ChildHost.sendKill pid traced.host
    (outcome, { traced with host })

def Files.Path.IsNameable (p : Path) : Prop :=
  ∀ part ∈ p.parts, '\x00' ∉ part.toList

instance (p : Path) : Decidable p.IsNameable :=
  inferInstanceAs (Decidable (∀ part ∈ p.parts, '\x00' ∉ part.toList))

/-- Something stands at a path, seen from a current directory; a link counts itself. -/
def Files.Tree.Stands (t : Tree) (current p : Path) : Prop :=
  ∃ place, t.find false (current.join p) = .ok place

variable {σ : Type} {tree : σ → Tree} {current : σ → Path}

inductive MakesFile (tree : σ → Tree) (current : σ → Path) (p : Path) (host : σ) :
    Except Fault Unit → σ → Prop
  | made {after : σ}
      (hmade : (tree host).create ((current host).join p) (.file []) = .ok (tree after))
      (hcurrent : current after = current host) : MakesFile tree current p host (.ok ()) after
  | refused {cause : OsFault} {after : σ} (htree : tree after = tree host) :
      MakesFile tree current p host (.error (.os cause)) after
  | unnameable {after : σ} (hname : ¬p.IsNameable) (htree : tree after = tree host) :
      MakesFile tree current p host (.error (.accident .nulInPath)) after

/-- A host whose files stand in a tree. Nothing is known of how it starts processes. -/
structure KeepsFiles [ChildHost σ] (tree : σ → Tree) (current : σ → Path) : Prop where
  makes : ∀ (p : Path) (host : σ), MakesFile tree current p host
    (ChildHost.createNew p host).1 (ChildHost.createNew p host).2

def LaunchOrder.logs (order : LaunchOrder) : List Path :=
  [order.workDir.below ["stdout_" ++ toString order.index ++ ".log"],
    order.workDir.below ["stderr_" ++ toString order.index ++ ".log"]]

structure ChildOrder.IsFor (child : ChildOrder) (order : LaunchOrder) : Prop where
  command : child.command = order.command
  workDir : child.workDir = order.workDir
  logs : [child.stdout, child.stderr] = order.logs
  environment : ∀ name, child.environment.lookup name =
    if name = Command.indexVariable then some (toString order.index)
    else order.environment.lookup name
  names : (order.environment.map (·.1)).Nodup → (child.environment.map (·.1)).Nodup

/-- How a launch ends: what was there is as it was when a process is started or the launch is given
up, and either one process was started with new output files or there is none. -/
structure LaunchesAlone [ChildHost σ] (tree : σ → Tree) (current : σ → Path) (order : LaunchOrder)
    (host : σ) (outcome : Except Fault Nat) (starts : List (ChildOrder × Except Fault Nat))
    (after : σ) : Prop where
  ordered : ∀ start ∈ starts, start.1.IsFor order
  handle : ∀ pid, outcome = .ok pid → (∃ child, starts = [(child, .ok pid)]) ∧
    ∀ log ∈ order.logs, ¬(tree host).Stands (current host) log
  failure : ∀ fault, outcome = .error fault →
    starts = [] ∨ ∃ child refusal, starts = [(child, .error refusal)]
  kept : ∃ between, (tree host).Keeps (tree between) ∧ (starts = [] ∧ after = between ∨
    ∃ start, starts = [start] ∧ ChildHost.start start.1 between = (start.2, after))
  taken : ∀ log ∈ order.logs, log.IsNameable → (tree host).Stands (current host) log →
    starts = [] ∧ ∃ cause, outcome = .error (.launchFailed cause none (some order.index))

/-! ### New files -/

theorem Files.Path.join_below (p q : Path) (names : List String) :
    p.join (q.below names) = (p.join q).below names := by
  by_cases hslashes : q.isAbsolute
  · have hbelow : (q.below names).isAbsolute := hslashes
    rw [Path.join, Path.join, if_pos hslashes, if_pos hbelow]
  · have hbelow : ¬(q.below names).isAbsolute := hslashes
    rw [Path.join, Path.join, if_neg hslashes, if_neg hbelow]
    simp only [Path.below, List.append_assoc]

theorem Files.IsComponent.isNameable_below {name : String} (h : IsComponent name) (p : Path) :
    (p.below [name]).IsNameable ↔ p.IsNameable := by
  have hlast : '\x00' ∉ name.toList := fun hmem => (h.plain _ hmem).2.2 rfl
  simp [Path.IsNameable, Path.below, or_imp, forall_and, hlast]

section MakesFile

variable {p q : Path} {host after : σ} {outcome : Except Fault Unit}

theorem MakesFile.grows (h : MakesFile tree current p host outcome after) :
    (tree host).Grows (tree after) := by
  cases h with
  | made hmade _ =>
      obtain ⟨_, _, _, hcreated⟩ := Tree.created_of_create hmade
      exact hcreated.grows
  | refused htree | unnameable _ htree =>
      rw [htree]
      exact .refl _

/-- A file is made only where nothing stands. -/
theorem MakesFile.not_stands {name : String} (hname : IsComponent name)
    (h : MakesFile tree current (q.below [name]) host (.ok ()) after) :
    ¬(tree host).Stands (current host) (q.below [name]) := by
  rintro ⟨place, hplace⟩
  cases h with
  | made hmade _ =>
      obtain ⟨front, last, parent, hcreated⟩ := Tree.created_of_create hmade
      have hparts : ((current host).join q).parts ++ [name] = front ++ [last] := by
        rw [← hcreated.parts, Path.join_below, Path.below]
      obtain ⟨-, hlast⟩ := List.append_inj' hparts rfl
      obtain rfl := List.singleton_inj.mp hlast
      exact hcreated.not_found hname.notDot hplace

/-- What stands at a path still stands there when a file has been made. -/
theorem MakesFile.stands (h : MakesFile tree current p host (.ok ()) after)
    (hstands : (tree host).Stands (current host) q) :
    (tree after).Stands (current after) q := by
  obtain ⟨place, hplace⟩ := hstands
  cases h with
  | made hmade hcurrent =>
      obtain ⟨_, _, _, hcreated⟩ := Tree.created_of_create hmade
      rw [hcurrent]
      exact ⟨place, hcreated.grows.find hplace⟩

theorem MakesFile.eq_os (hname : p.IsNameable) {fault : Fault}
    (h : MakesFile tree current p host (.error fault) after) : ∃ cause, fault = .os cause := by
  cases h with
  | refused _ => exact ⟨_, rfl⟩
  | unnameable hnul _ => exact absurd hname hnul

end MakesFile

/-! ### Launches -/

theorem childOrder_isFor (order : LaunchOrder) : (Launcher.childOrder order).IsFor order where
  command := rfl
  workDir := rfl
  logs := by rw [Launcher.childOrder, logPaths_below, LaunchOrder.logs]
  environment name := Command.lookup_put _ _ _ name
  names hnames := Command.nodup_put hnames _ _

def LaunchOrder.reported (order : LaunchOrder) : Fault → Fault
  | .os cause => .launchFailed (.notStarted order.index cause.message) none (some order.index)
  | fault => fault

section Launch

theorem Launcher.bind_run {α β : Type} (step : Step σ α) (next : α → Step σ β) (host : σ) :
    (step >>= next).run host = match step.run host with
      | (.ok a, between) => (next a).run between
      | (.error fault, between) => (.error fault, between) := by
  have hunfold : (step >>= next).run host = (match step.run host with
      | (outcome, between) => ExceptT.bindCont next outcome between) := rfl
  rw [hunfold]
  rcases step.run host with ⟨fault | a, between⟩ <;> rfl

variable [ChildHost σ]

inductive Begins (child : ChildOrder) (host : σ) :
    Except Fault Nat → List (ChildOrder × Except Fault Nat) → σ → Prop
  | noStdout {fault : Fault} {after : σ}
      (hstdout : ChildHost.createNew child.stdout host = (.error fault, after)) :
      Begins child host (.error fault) [] after
  | noStderr {fault : Fault} {between after : σ}
      (hstdout : ChildHost.createNew child.stdout host = (.ok (), between))
      (hstderr : ChildHost.createNew child.stderr between = (.error fault, after)) :
      Begins child host (.error fault) [] after
  | started {outcome : Except Fault Nat} {between ready after : σ}
      (hstdout : ChildHost.createNew child.stdout host = (.ok (), between))
      (hstderr : ChildHost.createNew child.stderr between = (.ok (), ready))
      (hstart : ChildHost.start child ready = (outcome, after)) :
      Begins child host outcome [(child, outcome)] after

theorem Launcher.startWithLogs_run (child : ChildOrder) (host : σ) :
    (startWithLogs child).run host = match ChildHost.createNew child.stdout host with
      | (.error fault, between) => (.error fault, between)
      | (.ok _, between) => match ChildHost.createNew child.stderr between with
        | (.error fault, ready) => (.error fault, ready)
        | (.ok _, ready) => ChildHost.start child ready := by
  rw [startWithLogs, bind_run, ExceptT.run_mk]
  rcases ChildHost.createNew child.stdout host with ⟨fault | ⟨⟩, between⟩
  · rfl
  · dsimp only
    rw [bind_run, ExceptT.run_mk]
    rcases ChildHost.createNew child.stderr between with ⟨fault | ⟨⟩, ready⟩ <;> rfl

/-- A launch is one of the listed ways to begin, and a record beside it changes nothing. -/
theorem Launcher.startWithLogs_begins (child : ChildOrder) (host : σ) :
    ∃ starts, Begins child host ((startWithLogs child).run host).1 starts
        ((startWithLogs child).run host).2 ∧
      ∀ past, (startWithLogs child).run (Traced.mk host past) =
        (((startWithLogs child).run host).1,
          ⟨((startWithLogs child).run host).2, past ++ starts⟩) := by
  have hcreate (path : Path) (host : σ) (past : List (ChildOrder × Except Fault Nat)) :
      ChildHost.createNew path (Traced.mk host past) =
        ((ChildHost.createNew path host).1, ⟨(ChildHost.createNew path host).2, past⟩) := rfl
  simp only [startWithLogs_run, hcreate]
  rcases hstdout : ChildHost.createNew child.stdout host with ⟨fault | ⟨⟩, between⟩
  · exact ⟨[], .noStdout hstdout, fun past => by rw [List.append_nil]⟩
  · dsimp only
    rcases hstderr : ChildHost.createNew child.stderr between with ⟨fault | ⟨⟩, ready⟩
    · exact ⟨[], .noStderr hstdout hstderr, fun past => by rw [List.append_nil]⟩
    · exact ⟨_, .started hstdout hstderr rfl, fun past => rfl⟩

theorem Launcher.launch_eq (order : LaunchOrder) (host : σ) : launch order host =
    (((startWithLogs (childOrder order)).run host).1.mapError order.reported,
      ((startWithLogs (childOrder order)).run host).2) := by
  unfold launch
  rcases (startWithLogs (childOrder order)).run host with ⟨fault | pid, after⟩
  · cases fault <;> rfl
  · rfl

end Launch

section Begins

variable [ChildHost σ] {child : ChildOrder} {order : LaunchOrder} {host after : σ}
  {outcome : Except Fault Nat} {starts : List (ChildOrder × Except Fault Nat)}

theorem ChildOrder.IsFor.stdout (h : child.IsFor order) :
    child.stdout = order.workDir.below ["stdout_" ++ toString order.index ++ ".log"] :=
  (List.cons.inj h.logs).1

theorem ChildOrder.IsFor.stderr (h : child.IsFor order) :
    child.stderr = order.workDir.below ["stderr_" ++ toString order.index ++ ".log"] :=
  List.singleton_inj.mp (List.cons.inj h.logs).2

theorem KeepsFiles.makes_eq (hfiles : KeepsFiles tree current) {p : Path} {made : Except Fault Unit}
    (h : ChildHost.createNew p host = (made, after)) :
    MakesFile tree current p host made after := by
  have hmakes := hfiles.makes p host
  rwa [h] at hmakes

/-- Both output files could be made, so neither of them was there. -/
theorem not_stands_of_started (hfiles : KeepsFiles tree current) (hchild : child.IsFor order)
    {between ready : σ} (hfirst : ChildHost.createNew child.stdout host = (.ok (), between))
    (hsecond : ChildHost.createNew child.stderr between = (.ok (), ready)) {log : Path}
    (hlog : log ∈ order.logs) : ¬(tree host).Stands (current host) log := by
  rw [hchild.stdout] at hfirst
  rw [hchild.stderr] at hsecond
  have hmade := hfiles.makes_eq hfirst
  rcases List.mem_pair.mp hlog with rfl | rfl
  · exact hmade.not_stands (isComponent_stdout _)
  · intro hstands
    exact (hfiles.makes_eq hsecond).not_stands (isComponent_stderr _) (hmade.stands hstands)

/-- However far a launch comes, it keeps the files that were there and starts one process at most.
-/
theorem Begins.kept (hfiles : KeepsFiles tree current)
    (h : Begins child host outcome starts after) :
    ∃ between, (tree host).Keeps (tree between) ∧ (starts = [] ∧ after = between ∨
      ∃ start, starts = [start] ∧ ChildHost.start start.1 between = (start.2, after)) := by
  cases h with
  | noStdout hstdout =>
      exact ⟨after, (hfiles.makes_eq hstdout).grows.keeps, Or.inl ⟨rfl, rfl⟩⟩
  | noStderr hstdout hstderr =>
      have hgrows := (hfiles.makes_eq hstdout).grows.trans (hfiles.makes_eq hstderr).grows
      exact ⟨after, hgrows.keeps, Or.inl ⟨rfl, rfl⟩⟩
  | @started _ between ready _ hstdout hstderr hstart =>
      have hgrows := (hfiles.makes_eq hstdout).grows.trans (hfiles.makes_eq hstderr).grows
      exact ⟨ready, hgrows.keeps, Or.inr ⟨_, rfl, hstart⟩⟩

/-- Where one of the output files is there already, nothing is started. -/
theorem Begins.taken (hfiles : KeepsFiles tree current) (hchild : child.IsFor order)
    (h : Begins child host outcome starts after) {log : Path} (hlog : log ∈ order.logs)
    (hname : log.IsNameable) (hstands : (tree host).Stands (current host) log) :
    starts = [] ∧ ∃ cause, outcome = .error (.os cause) := by
  have hstdout := isComponent_stdout order.index
  have hstderr := isComponent_stderr order.index
  have hworkDir : order.workDir.IsNameable := by
    rcases List.mem_pair.mp hlog with rfl | rfl
    · exact (hstdout.isNameable_below _).mp hname
    · exact (hstderr.isNameable_below _).mp hname
  cases h with
  | noStdout hfirst =>
      rw [hchild.stdout] at hfirst
      obtain ⟨cause, rfl⟩ :=
        (hfiles.makes_eq hfirst).eq_os ((hstdout.isNameable_below _).mpr hworkDir)
      exact ⟨rfl, cause, rfl⟩
  | noStderr _ hsecond =>
      rw [hchild.stderr] at hsecond
      obtain ⟨cause, rfl⟩ :=
        (hfiles.makes_eq hsecond).eq_os ((hstderr.isNameable_below _).mpr hworkDir)
      exact ⟨rfl, cause, rfl⟩
  | started hfirst hsecond _ =>
      exact absurd hstands (not_stands_of_started hfiles hchild hfirst hsecond hlog)

end Begins

/-- A launch never touches a file that is there. It starts one process, with new output files, or it
starts none. -/
theorem launch_exclusive [ChildHost σ] (hfiles : KeepsFiles tree current) (order : LaunchOrder)
    (host : σ) : ∃ starts,
      (∀ past, Launcher.launch order (Traced.mk host past) = ((Launcher.launch order host).1,
        ⟨(Launcher.launch order host).2, past ++ starts⟩)) ∧
      LaunchesAlone tree current order host (Launcher.launch order host).1 starts
        (Launcher.launch order host).2 := by
  have hchild := childOrder_isFor order
  obtain ⟨starts, hbegins, htraced⟩ :=
    Launcher.startWithLogs_begins (Launcher.childOrder order) host
  refine ⟨starts, fun past => ?_, ?_⟩
  · rw [Launcher.launch_eq, Launcher.launch_eq, htraced]
  rw [Launcher.launch_eq]
  generalize (Launcher.startWithLogs (Launcher.childOrder order)).run host = ended at hbegins
  obtain ⟨outcome, after⟩ := ended
  exact {
    ordered := by
      intro start hstart
      cases hbegins with
      | noStdout _ | noStderr _ _ => cases hstart
      | started _ _ _ =>
          obtain rfl := List.mem_singleton.mp hstart
          exact hchild
    handle := by
      intro pid hpid
      cases hbegins with
      | noStdout _ | noStderr _ _ => cases hpid
      | started hfirst hsecond _ =>
          refine ⟨?_, fun log => not_stands_of_started hfiles hchild hfirst hsecond⟩
          cases outcome with
          | error fault => cases hpid
          | ok started =>
              cases hpid
              exact ⟨_, rfl⟩
    failure := by
      intro fault hfault
      cases hbegins with
      | noStdout _ | noStderr _ _ => exact Or.inl rfl
      | started _ _ _ =>
          cases outcome with
          | ok pid => cases hfault
          | error refusal => exact Or.inr ⟨_, _, rfl⟩
    kept := hbegins.kept hfiles
    taken := by
      intro log hlog hname hstands
      obtain ⟨hnone, cause, rfl⟩ := hbegins.taken hfiles hchild hlog hname hstands
      exact ⟨hnone, _, rfl⟩ }

open Rehearsal.Shell in
theorem keepsFiles_shell : KeepsFiles Host.tree Host.current where
  makes p host := by
    have hunfold : ChildHost.createNew p host = Host.createNew p host := rfl
    rw [hunfold, Host.createNew]
    split
    · rename_i hnul
      refine .unnameable (fun hname => ?_) rfl
      obtain ⟨part, hpart, hcontains⟩ := List.any_eq_true.mp hnul
      exact hname part hpart (by simpa using hcontains)
    · split
      · rename_i hmade
        exact .made hmade rfl
      · exact .refused rfl

def Rehearsal.Shell.Host.used : Rehearsal.Shell.Host where
  tree := ⟨#[.directory [("work", 1)], .directory [("stderr_3.log", 2)], .file [33]]⟩
  current := .ofString "/"

def Rehearsal.thirdLaunch : LaunchOrder where
  command := ["sleep", "1"]
  environment := [("INSTANCE_INDEX", "0")]
  workDir := .ofString "/work"
  index := 3

open Rehearsal Rehearsal.Shell in
theorem stands_used : Host.used.tree.Stands Host.used.current (.ofString "/work/stderr_3.log") :=
  ⟨⟨[1, 0], 2⟩, by rfl⟩

open Rehearsal Rehearsal.Shell in
/-- The first output file can be made, the second is there already and stays as it is. -/
theorem launch_exclusive_used : KeepsFiles Host.tree Host.current ∧
    (∃ cause, (Launcher.launch thirdLaunch Host.used).1 =
      .error (.launchFailed cause none (some 3))) ∧
    (Launcher.launch thirdLaunch Host.used).2.tree.entry 2 = .file [33] := by
  obtain ⟨starts, -, hlaunch⟩ := launch_exclusive keepsFiles_shell thirdLaunch Host.used
  have hlog : Path.ofString "/work/stderr_3.log" ∈ thirdLaunch.logs := by decide
  obtain ⟨hnone, hfault⟩ := hlaunch.taken _ hlog (by decide) stands_used
  obtain ⟨between, hkeeps, hends⟩ := hlaunch.kept
  have hafter : (Launcher.launch thirdLaunch Host.used).2 = between := by
    rcases hends with ⟨-, hafter⟩ | ⟨start, hstart, -⟩
    · exact hafter
    · rw [hnone] at hstart
      cases hstart
  refine ⟨keepsFiles_shell, hfault, ?_⟩
  rw [hafter]
  exact hkeeps.file rfl

end AppSupervisor
