import AppSupervisor.Proofs.Interleaving
import Mathlib.Data.List.Induction

/-!
What an undeployment takes out of the registry.

An undeployment stops what it found under its id and then removes what is there by then. The two are
the same unless others removed the id and deployed it again in between. Then the undeployment takes
a deployment that it never stopped, and nobody knows of its processes any more.
-/

namespace AppSupervisor.Interleaving

variable {Client α : Type} [DecidableEq Client]

def movesOf (c : Client) (trace : Trace Client α) : List (Move α) :=
  trace.filterMap fun entry => if entry.1 = c then some entry.2 else none

/-- The undeployment that a client is in the middle of: what it found, and its moves since. -/
def Phase.progress? : Phase α → Option (String × α × List (Move α))
  | .reading id value => some (id, value, [])
  | .stopped id value => some (id, value, [.stopped id value])
  | .idle | .holding _ => none

def Underway (c : Client) (id : String) (value : α) (moves : List (Move α))
    (trace middle : Trace Client α) : Prop :=
  ∃ before, trace = before ++ (c, .got id value) :: middle ∧ movesOf c middle = moves

section Moves

variable {start s next : System Client α} {trace middle : Trace Client α} {c other : Client}
  {move : Move α} {id : String} {value : α} {moves : List (Move α)}

theorem movesOf_append (trace more : Trace Client α) :
    movesOf c (trace ++ more) = movesOf c trace ++ movesOf c more :=
  List.filterMap_append

theorem movesOf_self (move : Move α) : movesOf c [(c, move)] = [move] := by
  simp [movesOf]

theorem movesOf_cons_self (move : Move α) (trace : Trace Client α) :
    movesOf c ((c, move) :: trace) = move :: movesOf c trace := by
  simp [movesOf]

theorem movesOf_of_ne (h : other ≠ c) (move : Move α) : movesOf c [(other, move)] = [] := by
  simp [movesOf, h]

theorem mem_movesOf : move ∈ movesOf c trace ↔ (c, move) ∈ trace := by
  simp [movesOf, List.mem_filterMap]

theorem Underway.concat (h : Underway c id value moves trace middle) (entry : Client × Move α) :
    Underway c id value (moves ++ movesOf c [entry]) (trace ++ [entry]) (middle ++ [entry]) := by
  obtain ⟨before, rfl, rfl⟩ := h
  exact ⟨before, by simp, movesOf_append middle [entry]⟩

/-- An undeployment in progress was begun, and the client did nothing else since. -/
theorem underway_of_phase (hstart : start.phase c = .idle) (hrun : Run start trace s)
    (hphase : (s.phase c).progress? = some (id, value, moves)) :
    ∃ middle, Underway c id value moves trace middle := by
  -- from the end, since the last move tells what the client is in the middle of
  induction trace using List.reverseRecOn generalizing s id value moves with
  | nil =>
      cases hrun
      rw [hstart] at hphase
      cases hphase
  | append_singleton trace entry ih =>
      obtain ⟨between, hbefore, hlast⟩ := run_append_iff.mp hrun
      obtain ⟨mover, move⟩ := entry
      have hstep : Step between mover move s := run_singleton_iff.mp hlast
      by_cases hmover : mover = c
      · subst hmover
        cases hstep with
        | get hidle hget =>
            rw [become_phase_self] at hphase
            cases hphase
            exact ⟨[], trace, rfl, rfl⟩
        | stop hreading =>
            rw [become_phase_self] at hphase
            cases hphase
            obtain ⟨middle, hunderway⟩ := ih hbefore (by rw [hreading]; rfl)
            have hlonger := hunderway.concat (mover, .stopped id value)
            rw [movesOf_self] at hlonger
            exact ⟨_, hlonger⟩
        | refuse hidle | miss hidle =>
            rw [hidle] at hphase
            cases hphase
        | claim | publish | release | remove =>
            rw [become_phase_self] at hphase
            cases hphase
      · rw [hstep.phase_of_ne (Ne.symm hmover)] at hphase
        obtain ⟨middle, hunderway⟩ := ih hbefore hphase
        have hlonger := hunderway.concat (mover, move)
        rw [movesOf_of_ne hmover, List.append_nil] at hlonger
        exact ⟨_, hlonger⟩

/-- What is visible and not removed is not published again either. -/
theorem Exclusive.untouched (h : Exclusive s) (hrun : Run s trace next)
    (hget : s.registry.get? id = some value) (hkept : ∀ d taken?, (d, .removed id taken?) ∉ trace) :
    Untouched id trace := by
  induction hrun with
  | nil => simp [Untouched]
  | @cons s between next d move rest hstep hrun ih =>
      have hfirst : ∀ taken?, move ≠ .removed id taken? := by
        rintro taken? rfl
        exact hkept d taken? List.mem_cons_self
      have hsame : between.registry.get? id = some value :=
        (h.kept_or_removed hstep hget).resolve_right (hfirst (some value))
      have hstill : ¬move.Moves id := by
        intro hmoves
        cases move with
        | published _ new =>
            obtain rfl : id = _ := hmoves
            exact h.hidden_of_publish hstep (Registry.mem_ids_of_get? hget)
        | removed _ taken? =>
            obtain rfl : id = _ := hmoves
            exact hfirst taken? rfl
        | claimed | refused | released | missed | got | stopped => cases hmoves
      have hrest : ∀ d taken?, (d, .removed id taken?) ∉ rest := fun d taken? hmem =>
        hkept d taken? (List.mem_cons_of_mem _ hmem)
      exact List.forall_mem_cons.mpr ⟨hstill, ih (h.step hstep) hsame hrest⟩

omit [DecidableEq Client] in
theorem Survives.mem (h : Survives id value trace) : ∃ d, (d, .published id value) ∈ trace := by
  obtain ⟨first, d, rest, rfl, -⟩ := h
  exact ⟨d, by simp⟩

theorem Step.stopped_of_removed {taken? : Option α} (h : Step s c (.removed id taken?) next) :
    ∃ value, s.phase c = .stopped id value ∧ taken? = s.registry.get? id := by
  cases h with
  | remove hphase => exact ⟨_, hphase, rfl⟩

theorem Step.get?_of_got (h : Step s c (.got id value) next) :
    next.registry.get? id = some value := by
  cases h with
  | get hphase hget => exact hget

/-- Every removal belongs to an undeployment that found a value and stopped it. It takes this very
value or nothing exactly if no deployment that was published in the meantime is still there. One
that is there is what it takes, and another undeployment must have removed the id before. -/
theorem removal_takes {taken? : Option α} (hstart : start.Fresh)
    (hrun : Run start (trace ++ [(c, .removed id taken?)]) s) :
    ∃ value middle, Underway c id value [.stopped id value] trace middle ∧
      ((taken? = none ∨ taken? = some value ∧ ∀ d new, (d, .published id new) ∉ middle) ↔
        ∀ new, ¬Survives id new middle) ∧
      ∀ new, Survives id new middle → taken? = some new ∧
        ∃ d other?, d ≠ c ∧ (d, .removed id other?) ∈ middle := by
  obtain ⟨last, hbefore, hlast⟩ := run_append_iff.mp hrun
  obtain ⟨value, hphase, rfl⟩ := (run_singleton_iff.mp hlast).stopped_of_removed
  have hprogress : (last.phase c).progress? = some (id, value, [.stopped id value]) := by
    rw [hphase, Phase.progress?]
  obtain ⟨middle, before, rfl, hmoves⟩ := underway_of_phase (hstart.2 c) hbefore hprogress
  obtain ⟨first, hfirst, hrest⟩ := run_append_iff.mp hbefore
  cases hrest with
  | @cons _ found _ _ _ _ hgot hmiddle =>
    have hget : found.registry.get? id = some value := hgot.get?_of_got
    have hexclusive : Exclusive found :=
      (exclusive_of_run (exclusive_of_fresh hstart) hfirst).step hgot
    refine ⟨value, middle, ⟨before, rfl, hmoves⟩, ?_, ?_⟩
    · constructor
      · rintro htaken new hsurvives
        have hnew := get?_of_survives hmiddle hsurvives
        obtain ⟨d, hpublished⟩ := hsurvives.mem
        rcases htaken with hnone | ⟨-, hunpublished⟩
        · rw [hnew] at hnone
          cases hnone
        · exact hunpublished d new hpublished
      · intro hnone
        rcases get?_of_run hmiddle id with ⟨huntouched, hsame⟩ | ⟨new, hsurvives⟩ | hgone
        · refine Or.inr ⟨hsame.trans hget, fun d new hpublished => ?_⟩
          exact huntouched _ hpublished rfl
        · exact absurd hsurvives (hnone new)
        · exact Or.inl hgone
    · intro new hsurvives
      refine ⟨get?_of_survives hmiddle hsurvives, ?_⟩
      by_contra hothers
      have hkept : ∀ d other?, (d, .removed id other?) ∉ middle := by
        rintro d other? hremoved
        by_cases hself : d = c
        · rw [hself, ← mem_movesOf, hmoves] at hremoved
          simp at hremoved
        · exact hothers ⟨d, other?, hself, hremoved⟩
      obtain ⟨d, hpublished⟩ := hsurvives.mem
      exact hexclusive.untouched hmiddle hget hkept _ hpublished rfl

end Moves

theorem removal_takes_own :
    ∃ s, (System.calm {} : System Bool Nat).Fresh ∧
      Run (.calm {}) ([(true, .claimed "a"), (true, .published "a" 1), (true, .got "a" 1),
        (true, .stopped "a" 1)] ++ [(true, .removed "a" (some 1))]) s ∧
      ∃ value middle, Underway true "a" value [.stopped "a" value] [(true, .claimed "a"),
        (true, .published "a" 1), (true, .got "a" 1), (true, .stopped "a" 1)] middle ∧
        ((some 1 = none ∨ some 1 = some value ∧ ∀ d new, (d, .published "a" new) ∉ middle) ↔
          ∀ new, ¬Survives "a" new middle) := by
  obtain ⟨s, hrun⟩ : ∃ s, Run (System.calm {} : System Bool Nat) ([(true, .claimed "a"),
      (true, .published "a" 1), (true, .got "a" 1), (true, .stopped "a" 1)] ++
      [(true, .removed "a" (some 1))]) s :=
    ⟨_, run_append_iff.mpr ⟨_, .cons (.claim rfl rfl) (.cons (.publish 1 rfl)
      (.cons (.get rfl rfl) (.cons (.stop rfl) .nil))), run_singleton_iff.mpr (.remove rfl)⟩⟩
  obtain ⟨value, middle, hunderway, hown, -⟩ := removal_takes (fresh_calm rfl) hrun
  exact ⟨s, fresh_calm rfl, hrun, value, middle, hunderway, hown⟩

/-- Two undeployments find the same deployment. While one is slow, the other finishes and the id is
deployed again; then the slow one removes what nobody stopped. -/
theorem removal_takes_redeployed :
    ∃ (trace : Trace Bool Nat) (s : System Bool Nat),
      Run (.calm {}) (trace ++ [(true, .removed "a" (some 2))]) s ∧
      movesOf true trace = [.got "a" 1, .stopped "a" 1] ∧
      (∀ d id, (d, .stopped id 2) ∉ trace) ∧ "a" ∉ s.registry.ids := by
  refine ⟨[(false, .claimed "a"), (false, .published "a" 1), (true, .got "a" 1),
    (true, .stopped "a" 1), (false, .got "a" 1), (false, .stopped "a" 1),
    (false, .removed "a" (some 1)), (false, .claimed "a"), (false, .published "a" 2)], _,
    run_append_iff.mpr ⟨_, .cons (.claim rfl rfl) (.cons (.publish 1 rfl) (.cons (.get rfl rfl)
      (.cons (.stop rfl) (.cons (.get rfl rfl) (.cons (.stop rfl) (.cons (.remove rfl)
      (.cons (.claim rfl rfl) (.cons (.publish 2 rfl) .nil)))))))),
      run_singleton_iff.mpr (.remove rfl)⟩, by decide, ?_, by decide⟩
  simp

end AppSupervisor.Interleaving
