import AppSupervisor.Deployer.Launch
import Mathlib.Data.List.Nodup

/-!
Names that lead one level down.

A component is a name that a path takes as it is, as one part of its own. Of names that are not
empty, these are the ones that pass for names of working directories; the names of output files are
components as well, and each of them belongs to one index.
-/

namespace AppSupervisor

open AppSupervisor.Files

namespace Files

def IsNameChar (c : Char) : Prop :=
  c ≠ '/' ∧ c ≠ '\\' ∧ c ≠ '\x00'

instance : DecidablePred IsNameChar := fun c =>
  inferInstanceAs (Decidable (c ≠ '/' ∧ c ≠ '\\' ∧ c ≠ '\x00'))

structure IsComponent (name : String) : Prop where
  nonempty : name ≠ ""
  notDot : name ≠ "."
  notDots : name ≠ ".."
  plain : ∀ c ∈ name.toList, IsNameChar c

def Path.below (p : Path) (names : List String) : Path :=
  { p with parts := p.parts ++ names }

@[simp]
theorem Path.below_below (p : Path) (names more : List String) :
    (p.below names).below more = p.below (names ++ more) := by
  simp [below]

theorem Path.below_inj {p q : Path} {name other : String} :
    p.below [name] = q.below [other] ↔ p = q ∧ name = other := by
  constructor
  · intro h
    obtain ⟨hslashes, hparts⟩ := Path.mk.inj h
    obtain ⟨hfront, hlast⟩ := List.append_inj' hparts rfl
    exact ⟨Path.mk.injEq .. ▸ ⟨hslashes, hfront⟩, List.singleton_inj.mp hlast⟩
  · rintro ⟨rfl, rfl⟩
    rfl

theorem cut_of_not_mem {sep : Char} {cs : List Char} (h : sep ∉ cs) : cut sep cs = [cs] := by
  induction cs with
  | nil => rfl
  | cons c rest ih =>
      obtain ⟨hc, hrest⟩ := not_or.mp (mt List.mem_cons.mpr h)
      have hne : (c == sep) = false := by simpa using Ne.symm hc
      simp [cut, hne, ih hrest]

theorem IsComponent.ofString {name : String} (h : IsComponent name) :
    Path.ofString name = { slashes := 0, parts := [name] } := by
  have hplain : '/' ∉ name.toList := fun hmem => (h.plain '/' hmem).1 rfl
  have hleading : name.toList.takeWhile (· == '/') = [] := by
    cases hchars : name.toList with
    | nil => rfl
    | cons c rest =>
        have hne : (c == '/') = false := by
          rw [hchars] at hplain
          simpa using Ne.symm (not_or.mp (mt List.mem_cons.mpr hplain)).1
        simp [hne]
  simp [Path.ofString, hleading, pieces, cut_of_not_mem hplain, h.nonempty, h.notDot]

theorem IsComponent.child {name : String} (h : IsComponent name) (p : Path) :
    p.child name = p.below [name] := by
  simp [Path.child, Path.join, h.ofString, Path.isAbsolute, Path.below]

/-- A name with an ordinary character that is no dot in it is neither a dot nor a pair of them. -/
theorem isComponent_of_mem {name : String} {c : Char} (hmem : c ∈ name.toList) (hdot : c ≠ '.')
    (hplain : ∀ c ∈ name.toList, IsNameChar c) : IsComponent name := by
  refine ⟨?_, ?_, ?_, hplain⟩
  · rintro rfl
    simp at hmem
  · rintro rfl
    simp_all
  · rintro rfl
    simp_all

theorem IsComponent.append {name : String} (h : IsComponent name) {c : Char} {more : String}
    (hmem : c ∈ more.toList) (hdot : c ≠ '.') (hplain : ∀ c ∈ more.toList, IsNameChar c) :
    IsComponent (name ++ more) := by
  refine isComponent_of_mem (c := c) (by simp [hmem]) hdot fun other hother => ?_
  rcases List.mem_append.mp (String.toList_append ▸ hother) with hother | hother
  · exact h.plain other hother
  · exact hplain other hother

end Files

/-! ### Names of working directories -/

theorem isDirectoryName_iff {name : String} (h : name ≠ "") :
    isDirectoryName name ↔ IsComponent name := by
  simp only [isDirectoryName, Bool.and_eq_true, bne_iff_ne, List.all_eq_true, and_assoc]
  constructor
  · rintro ⟨hdot, hdots, hplain⟩
    exact ⟨h, hdot, hdots, hplain⟩
  · rintro ⟨-, hdot, hdots, hplain⟩
    exact ⟨hdot, hdots, hplain⟩

theorem checkDirectoryName_eq_ok_iff {name what : String} (h : name ≠ "") :
    checkDirectoryName name what = .ok () ↔ IsComponent name := by
  rw [checkDirectoryName, ← isDirectoryName_iff h]
  split <;> simp_all

theorem checkDirectoryName_eq_error_iff {name what : String} {fault : Fault} (h : name ≠ "") :
    checkDirectoryName name what = .error fault ↔
      ¬IsComponent name ∧ fault = .badRequest (.badDirectoryName what name) := by
  rw [checkDirectoryName, ← isDirectoryName_iff h]
  split
  · rename_i hname
    simp [hname]
  · rename_i hname
    rw [Except.error.injEq, eq_comm]
    simp [hname]

theorem Request.deploymentId_ne_empty (request : Request) : request.deploymentId ≠ "" := by
  intro h
  have hdot : '.' ∈ request.deploymentId.toList := by
    have hname : request.deploymentId = request.group ++ "." ++ request.definition.name := rfl
    simp [hname, String.toList_append]
  simp [h] at hdot

/-! ### Names of output files -/

theorem toList_toString (n : Nat) : (toString n).toList = Nat.toDigits 10 n :=
  Nat.toList_repr

theorem toString_injective {m n : Nat} (h : toString m = toString n) : m = n := by
  have hdigits : Nat.toDigits 10 m = Nat.toDigits 10 n := by
    rw [← toList_toString, ← toList_toString, h]
  have hread := congrArg (Nat.ofDigitChars 10 · 0) hdigits
  simpa only [Nat.ofDigitChars_toDigits (by decide : 1 < 10) (by decide : 10 ≤ 10)] using hread

theorem isNameChar_of_isDigit {c : Char} (h : c.isDigit) : IsNameChar c := by
  refine ⟨?_, ?_, ?_⟩ <;> rintro rfl <;> contradiction

/-- A name with a plain text in it is a component if the text around it is plain as well. -/
theorem isComponent_around {front text back : String} {c : Char} (hmem : c ∈ front.toList)
    (hdot : c ≠ '.') (hfront : ∀ c ∈ front.toList, IsNameChar c)
    (htext : ∀ c ∈ text.toList, IsNameChar c) (hback : ∀ c ∈ back.toList, IsNameChar c) :
    IsComponent (front ++ text ++ back) := by
  refine isComponent_of_mem (c := c) (by simp [hmem]) hdot fun other hother => ?_
  simp only [String.toList_append, List.mem_append] at hother
  rcases hother with (hother | hother) | hother
  · exact hfront other hother
  · exact htext other hother
  · exact hback other hother

theorem isNameChar_of_mem_toString {index : Nat} {c : Char} (h : c ∈ (toString index).toList) :
    IsNameChar c := by
  rw [toList_toString] at h
  exact isNameChar_of_isDigit (Nat.isDigit_of_mem_toDigits (by decide) (by decide) h)

theorem isNameChar_of_mem_toString_int {index : Int} {c : Char}
    (h : c ∈ (toString index).toList) : IsNameChar c := by
  cases index with
  | ofNat n => exact isNameChar_of_mem_toString h
  | negSucc n =>
      have hminus : toString (Int.negSucc n) = "-" ++ toString (n + 1) := rfl
      rw [hminus, String.toList_append, List.mem_append] at h
      rcases h with hminus | hdigit
      · obtain rfl : c = '-' := by simpa using hminus
        decide
      · exact isNameChar_of_mem_toString hdigit

/-- A name with an index in it is a component if the text around the index is plain. -/
theorem isComponent_numbered {front back : String} {c : Char} (hmem : c ∈ front.toList)
    (hdot : c ≠ '.') (hfront : ∀ c ∈ front.toList, IsNameChar c)
    (hback : ∀ c ∈ back.toList, IsNameChar c) (index : Nat) :
    IsComponent (front ++ toString index ++ back) :=
  isComponent_around hmem hdot hfront (fun _ => isNameChar_of_mem_toString) hback

theorem isComponent_stdout (index : Int) :
    IsComponent ("stdout_" ++ toString index ++ ".log") :=
  isComponent_around (c := 's') (by simp) (by decide) (by simp [IsNameChar])
    (fun _ => isNameChar_of_mem_toString_int) (by simp [IsNameChar])

theorem isComponent_stderr (index : Int) :
    IsComponent ("stderr_" ++ toString index ++ ".log") :=
  isComponent_around (c := 's') (by simp) (by decide) (by simp [IsNameChar])
    (fun _ => isNameChar_of_mem_toString_int) (by simp [IsNameChar])

theorem logPaths_below (workDir : Path) (index : Int) :
    logPaths workDir index = (workDir.below ["stdout_" ++ toString index ++ ".log"],
      workDir.below ["stderr_" ++ toString index ++ ".log"]) := by
  have hstdout : s!"stdout_{index}.log" = "stdout_" ++ toString index ++ ".log" := rfl
  have hstderr : s!"stderr_{index}.log" = "stderr_" ++ toString index ++ ".log" := rfl
  rw [logPaths, hstdout, hstderr, (isComponent_stdout index).child,
    (isComponent_stderr index).child]

theorem logPaths_eq (workDir : Path) (index : Nat) :
    logPaths workDir index = (workDir.below ["stdout_" ++ toString index ++ ".log"],
      workDir.below ["stderr_" ++ toString index ++ ".log"]) :=
  logPaths_below workDir index

end AppSupervisor
