import AppSupervisor.Text.Blank
import Mathlib.Data.List.DropRight

/-!
Blanks around a text.

Trimming a text finds in it the one that neither begins nor ends with a blank and has nothing but
blanks around it. So what is trimmed can be told without looking at how it is done.
-/

namespace AppSupervisor.Text

structure IsTrimmed (s : String) : Prop where
  first : ∀ c ∈ s.toList.head?, isBlank c = false
  last : ∀ c ∈ s.toList.getLast?, isBlank c = false

def IsPadded (s inner : String) : Prop :=
  ∃ before after, isBlankText before ∧ isBlankText after ∧ s = before ++ inner ++ after

theorem isBlankText_iff {s : String} : isBlankText s ↔ ∀ c ∈ s.toList, isBlank c :=
  List.all_eq_true

theorem IsTrimmed.of_no_blank {s : String} (h : ∀ c ∈ s.toList, isBlank c = false) :
    IsTrimmed s where
  first c hc := h c (List.mem_of_mem_head? hc)
  last c hc := h c (List.mem_of_mem_getLast? hc)

theorem toList_trim (s : String) :
    (trim s).toList = (s.toList.dropWhile isBlank).rdropWhile isBlank :=
  String.toList_ofList

theorem trim_eq_empty_iff (s : String) : trim s = "" ↔ isBlankText s := by
  rw [← String.toList_inj, toList_trim, String.toList_empty, List.rdropWhile_eq_nil_iff,
    ← List.dropWhile_eq_nil_iff, List.dropWhile_idempotent, List.dropWhile_eq_nil_iff,
    isBlankText_iff]

theorem trim_isTrimmed (s : String) : IsTrimmed (trim s) := by
  constructor
  · intro c hc
    rw [toList_trim] at hc
    obtain ⟨rest, hrest⟩ := List.rdropWhile_prefix isBlank (s.toList.dropWhile isBlank)
    have hfirst : (s.toList.dropWhile isBlank).head? = some c := by
      rw [← hrest, List.head?_append, Option.mem_def.mp hc, Option.some_or]
    have hnot := List.head?_dropWhile_not isBlank s.toList
    rw [hfirst] at hnot
    exact hnot
  · intro c hc
    rw [toList_trim] at hc
    obtain ⟨hne, rfl⟩ := List.mem_getLast?_eq_getLast hc
    simpa using List.rdropWhile_last_not isBlank (s.toList.dropWhile isBlank) hne

/-- Trimming takes nothing away but blanks at both ends. -/
theorem isPadded_trim (s : String) : IsPadded s (trim s) := by
  refine ⟨.ofList (s.toList.takeWhile isBlank),
    .ofList ((s.toList.dropWhile isBlank).rtakeWhile isBlank), ?_, ?_, ?_⟩
  · rw [isBlankText_iff, String.toList_ofList]
    exact fun c hc => List.mem_takeWhile_imp hc
  · rw [isBlankText_iff, String.toList_ofList]
    exact fun c hc => List.mem_rtakeWhile_imp hc
  · rw [← String.toList_inj]
    simp only [String.toList_append, String.toList_ofList, toList_trim, List.append_assoc,
      List.rdropWhile_append_rtakeWhile, List.takeWhile_append_dropWhile]

theorem rdropWhile_append_of_pos {α : Type} {p : α → Bool} {front back : List α}
    (h : ∀ a ∈ back, p a) : (front ++ back).rdropWhile p = front.rdropWhile p := by
  rw [List.rdropWhile, List.reverse_append, List.dropWhile_append_of_pos (by simpa using h),
    List.rdropWhile]

theorem IsPadded.trim_eq {s inner : String} (h : IsPadded s inner) (hinner : IsTrimmed inner) :
    trim s = inner := by
  obtain ⟨before, after, hbefore, hafter, rfl⟩ := h
  rw [isBlankText_iff] at hbefore hafter
  rw [← String.toList_inj, toList_trim, String.toList_append, String.toList_append,
    List.append_assoc, List.dropWhile_append_of_pos hbefore]
  cases hchars : inner.toList with
  | nil =>
      rw [List.nil_append, List.dropWhile_eq_nil_iff.mpr hafter]
      rfl
  | cons c rest =>
      have hfirst : isBlank c = false := hinner.first c (by simp [hchars])
      rw [List.cons_append, List.dropWhile_cons_of_neg (by simp [hfirst]), ← List.cons_append,
        rdropWhile_append_of_pos hafter, List.rdropWhile_eq_self_iff]
      intro hne
      have hlast : isBlank ((c :: rest).getLast hne) = false :=
        hinner.last _ (by rw [hchars]; exact List.getLast?_eq_some_getLast hne)
      simp [hlast]

end AppSupervisor.Text
