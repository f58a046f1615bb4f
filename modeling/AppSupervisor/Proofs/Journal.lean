import AppSupervisor.Machine

/-!
What a journal tells about launches, kills, exits and other supervisors.
-/

namespace AppSupervisor

@[simp]
def Event.launch? : Event → Option (LaunchOrder × Nat)
  | .launched order pid => some (order, pid)
  | _ => none

@[simp]
def Event.try? : Event → Option LaunchOrder
  | .launched order _ | .refusedLaunch order _ => some order
  | _ => none

@[simp]
def Event.kill? : Event → Option Nat
  | .killed pid => some pid
  | _ => none

@[simp]
def Event.loss? : Event → Option String
  | .lost deploymentId => some deploymentId
  | _ => none

@[simp]
def Event.opening? : Event → Option Nat
  | .openedSession session => some session
  | _ => none

def picked {α : Type} (view : Event → Option α) (done : List Event) : List α := done.filterMap view

abbrev launchesIn (done : List Event) : List (LaunchOrder × Nat) := picked Event.launch? done

abbrev triesIn (done : List Event) : List LaunchOrder := picked Event.try? done

abbrev killsIn (done : List Event) : List Nat := picked Event.kill? done

abbrev lossesIn (done : List Event) : List String := picked Event.loss? done

abbrev openingsIn (done : List Event) : List Nat := picked Event.opening? done

def Ended (done : List Event) (pid : Nat) : Prop :=
  .killed pid ∈ done ∨ ∃ code, .sawExit pid code ∈ done

/-- An event without effect on processes, on what is registered and on working directories, and
without use of a session. -/
def Event.isQuiet : Event → Bool
  | .launched _ _ | .refusedLaunch _ _ | .killed _ | .lost _ | .openedSession _ | .closedSession _
  | .askedPage _ _ _ | .posted _ _ _ | .removedTree _ => false
  | _ => true

@[simp]
def Event.isFault : Event → Bool
  | .raised _ => true
  | _ => false

/-- What follows a fault answers it: a directory is made in place of one that is there already. -/
def IsAnswer : List Event → Prop
  | .madeDirectory _ :: _ => True
  | _ => False

def Answered (done : List Event) : Prop :=
  ∀ before fault after, done = before ++ .raised fault :: after → IsAnswer after

def Halts (done : List Event) : Prop :=
  ∀ before fault after, done = before ++ .raised fault :: after →
    triesIn after = [] ∨ IsAnswer after

def KillsLast (done : List Event) : Prop :=
  ∃ before after, done = before ++ after ∧ killsIn before = [] ∧ triesIn after = []

section Picked

variable {α : Type} (view : Event → Option α)

@[simp]
theorem picked_nil : picked view [] = [] := rfl

@[simp]
theorem picked_cons (event : Event) (done : List Event) :
    picked view (event :: done) = (view event).toList ++ picked view done := by
  cases h : view event <;> simp [picked, h]

@[simp]
theorem picked_append (done more : List Event) :
    picked view (done ++ more) = picked view done ++ picked view more :=
  List.filterMap_append

theorem picked_eq_nil_iff {view : Event → Option α} {done : List Event} :
    picked view done = [] ↔ ∀ event ∈ done, view event = none :=
  List.filterMap_eq_nil_iff

/-- Quiet events say nothing to a view that overlooks them. -/
theorem picked_of_quiet {view : Event → Option α} {done : List Event}
    (hview : ∀ event, event.isQuiet → view event = none) (hquiet : ∀ event ∈ done, event.isQuiet) :
    picked view done = [] :=
  picked_eq_nil_iff.mpr fun event hmem => hview event (hquiet event hmem)

end Picked

theorem Event.launch?_of_quiet (event : Event) (h : event.isQuiet) : event.launch? = none := by
  cases event <;> simp_all [isQuiet]

theorem Event.try?_of_quiet (event : Event) (h : event.isQuiet) : event.try? = none := by
  cases event <;> simp_all [isQuiet]

theorem Event.kill?_of_quiet (event : Event) (h : event.isQuiet) : event.kill? = none := by
  cases event <;> simp_all [isQuiet]

theorem Event.opening?_of_quiet (event : Event) (h : event.isQuiet) : event.opening? = none := by
  cases event <;> simp_all [isQuiet]

theorem not_mem_of_quiet {done : List Event} (hquiet : ∀ event ∈ done, event.isQuiet)
    {event : Event} (h : event.isQuiet = false) : event ∉ done :=
  fun hmem => by simp [hquiet event hmem] at h

theorem mem_launchesIn {done : List Event} {order : LaunchOrder} {pid : Nat} :
    (order, pid) ∈ launchesIn done ↔ .launched order pid ∈ done := by
  constructor
  · intro hmem
    obtain ⟨event, hevent, hlaunch⟩ := List.mem_filterMap.mp hmem
    cases event <;> simp_all
  · exact fun hmem => List.mem_filterMap.mpr ⟨_, hmem, rfl⟩

theorem mem_killsIn {done : List Event} {pid : Nat} : pid ∈ killsIn done ↔ .killed pid ∈ done := by
  constructor
  · intro hmem
    obtain ⟨event, hevent, hkill⟩ := List.mem_filterMap.mp hmem
    cases event <;> simp_all
  · exact fun hmem => List.mem_filterMap.mpr ⟨_, hmem, rfl⟩

/-! ### Places in a journal -/

/-- What stands in two stretches stands in the one or in the other. -/
theorem append_eq_append_cons {α : Type} {done more before after : List α} {event : α}
    (h : done ++ more = before ++ event :: after) :
    (∃ rest, done = before ++ event :: rest ∧ after = rest ++ more) ∨
      ∃ rest, before = done ++ rest ∧ more = rest ++ event :: after := by
  rcases List.append_eq_append_iff.mp h with ⟨rest, hbefore, hmore⟩ | ⟨rest, hdone, hafter⟩
  · exact Or.inr ⟨rest, hbefore, hmore⟩
  · cases rest with
    | nil => exact Or.inr ⟨[], by simpa using hdone.symm, by simpa using hafter.symm⟩
    | cons head rest =>
        obtain ⟨rfl, rfl⟩ := List.cons_eq_cons.mp hafter
        exact Or.inl ⟨rest, hdone, rfl⟩

variable {done more : List Event}

theorem launchesIn_of_triesIn_eq_nil (h : triesIn done = []) : launchesIn done = [] := by
  refine picked_eq_nil_iff.mpr fun event hmem => ?_
  have := picked_eq_nil_iff.mp h event hmem
  cases event <;> simp_all

theorem not_refused_of_triesIn_eq_nil (h : triesIn done = []) {order : LaunchOrder}
    {fault : Fault} : .refusedLaunch order fault ∉ done :=
  fun hmem => by simpa using picked_eq_nil_iff.mp h _ hmem

theorem triesIn_eq_nil_of_suffix {before after : List Event} (h : triesIn (before ++ after) = []) :
    triesIn after = [] := by
  have hboth : triesIn before ++ triesIn after = [] := (picked_append _ before after).symm.trans h
  exact (List.append_eq_nil_iff.mp hboth).2

theorem isAnswer_append {after : List Event} (h : IsAnswer after) : IsAnswer (after ++ more) := by
  cases after with
  | nil => exact h.elim
  | cons event rest => cases event <;> first | exact h.elim | exact h

theorem answered_of_not_raised (hnone : ∀ event ∈ done, event.isFault = false) :
    Answered done := by
  rintro before fault after rfl
  have hfault := hnone (.raised fault) (by simp)
  contradiction

theorem Answered.append (hdone : Answered done) (hmore : Answered more) :
    Answered (done ++ more) := by
  intro before fault after hsplit
  rcases append_eq_append_cons hsplit with ⟨rest, hfirst, rfl⟩ | ⟨rest, rfl, hrest⟩
  · exact isAnswer_append (hdone before fault rest hfirst)
  · exact hmore rest fault after hrest

theorem Answered.halts (hdone : Answered done) : Halts done :=
  fun before fault after hsplit => Or.inr (hdone before fault after hsplit)

theorem halts_of_triesIn_eq_nil (h : triesIn done = []) : Halts done := by
  rintro before fault after rfl
  have hafter : triesIn ([.raised fault] ++ after) = [] := triesIn_eq_nil_of_suffix h
  exact Or.inl (triesIn_eq_nil_of_suffix hafter)

/-- What follows a stretch whose faults were answered may halt on its own. -/
theorem Halts.prepend (hmore : Halts more) (hdone : Answered done) : Halts (done ++ more) := by
  intro before fault after hsplit
  rcases append_eq_append_cons hsplit with ⟨rest, hfirst, rfl⟩ | ⟨rest, rfl, hrest⟩
  · exact Or.inr (isAnswer_append (hdone before fault rest hfirst))
  · exact hmore rest fault after hrest

theorem halts_refusal (order : LaunchOrder) (fault : Fault) :
    Halts [.refusedLaunch order fault, .raised fault] := by
  have hraise : Halts [.raised fault] := halts_of_triesIn_eq_nil rfl
  have hrefusal : Answered [.refusedLaunch order fault] := answered_of_not_raised (by simp)
  exact hraise.prepend hrefusal

/-- What follows a halt must not launch. -/
theorem Halts.append (hdone : Halts done) (hmore : triesIn more = []) : Halts (done ++ more) := by
  intro before fault after hsplit
  rcases append_eq_append_cons hsplit with ⟨rest, hfirst, rfl⟩ | ⟨rest, rfl, rfl⟩
  · rcases hdone before fault rest hfirst with hrest | hanswer
    · exact Or.inl (by simp [hrest, hmore])
    · exact Or.inr (isAnswer_append hanswer)
  · have hafter : triesIn ([.raised fault] ++ after) = [] := triesIn_eq_nil_of_suffix hmore
    exact Or.inl (triesIn_eq_nil_of_suffix hafter)

end AppSupervisor
