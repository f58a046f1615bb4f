import AppSupervisor.Ports
import AppSupervisor.Proofs.Numerals

/-!
Numbers that requests give in texts.

The number of instances and the port of an app are read from texts. What comes of a text is told by
the number that it names, if it names one: each outcome has its own condition, and there is no other
outcome. All that is said elsewhere about these numbers is read off the outcomes.
-/

namespace AppSupervisor

open AppSupervisor.Numeral AppSupervisor.Text

inductive CountOutcome (value : String) : Except Fault Nat → Prop
  | blank (hvalue : isBlankText value) : CountOutcome value (.ok 1)
  | named {n : Int} (hn : Names value n) (hlow : 1 ≤ n) : CountOutcome value (.ok n.toNat)
  | tooSmall {n : Int} (hn : Names value n) (hlow : n < 1) :
      CountOutcome value (.error (.badRequest (.countTooSmall n)))
  | unreadable (hvalue : ¬isBlankText value) (hnone : ∀ n, ¬Names value n) :
      CountOutcome value (.error (.badRequest (.countNotInteger value)))

inductive PortOutcome (value source : String) : Except Fault Int → Prop
  | named {n : Int} (hn : Names value n) (hlow : 1 ≤ n) (hhigh : n ≤ 65535) :
      PortOutcome value source (.ok n)
  | outOfRange {n : Int} (hn : Names value n) (hrange : ¬(1 ≤ n ∧ n ≤ 65535)) :
      PortOutcome value source (.error (.badRequest (.portOutOfRange source n)))
  | unreadable (hnone : ∀ n, ¬Names value n) :
      PortOutcome value source (.error (.badRequest (.portNotInteger source value)))

/-! ### Reading a text -/

theorem Numeral.Names.not_blank {s : String} {n : Int} (h : Names s n) : ¬isBlankText s := by
  intro hblank
  rw [← parseInteger_trim_eq_ok_iff, (trim_eq_empty_iff s).mpr hblank] at h
  have hempty : parseInteger "" = .error (.malformed 10 "") := by decide
  rw [hempty] at h
  contradiction

theorem parseInteger_trim_eq_error {s : String} (h : ∀ n, ¬Names s n) :
    ∃ fault, parseInteger (trim s) = .error fault := by
  cases hread : parseInteger (trim s) with
  | ok n => exact absurd (parseInteger_trim_eq_ok_iff.mp hread) (h n)
  | error fault => exact ⟨fault, rfl⟩

theorem instanceCount_of_lookup {properties : List (String × String)} {value : String}
    (h : (properties.lookup countProperty).getD "" = value) :
    instanceCount properties = if isBlankText value then .ok 1
      else match parseInteger (trim value) with
        | .error _ => .error (.badRequest (.countNotInteger value))
        | .ok count =>
          if count < 1 then .error (.badRequest (.countTooSmall count)) else .ok count.toNat := by
  unfold instanceCount
  cases hlookup : properties.lookup countProperty with
  | none =>
      have hblank : isBlankText value := by
        rw [← h, hlookup, Option.getD_none]
        rfl
      rw [if_pos hblank]
  | some given =>
      obtain rfl : given = value := by
        rw [← h, hlookup, Option.getD_some]
      cases hread : parseInteger (trim given) <;> simp only [hread]

/-- An absent count is read as a blank one. -/
theorem instanceCount_eq_iff {properties : List (String × String)} {value : String}
    {outcome : Except Fault Nat} (h : (properties.lookup countProperty).getD "" = value) :
    instanceCount properties = outcome ↔ CountOutcome value outcome := by
  rw [instanceCount_of_lookup h]
  constructor
  · rintro rfl
    split_ifs with hblank
    · exact .blank hblank
    · cases hread : parseInteger (trim value) with
      | error fault =>
          refine .unreadable hblank fun n hn => ?_
          rw [parseInteger_trim_eq_ok_iff.mpr hn] at hread
          contradiction
      | ok n =>
          have hn : Names value n := parseInteger_trim_eq_ok_iff.mp hread
          dsimp only
          split_ifs with hlow
          · exact .tooSmall hn hlow
          · exact .named hn (by omega)
  · rintro (hblank | ⟨hn, hlow⟩ | ⟨hn, hlow⟩ | ⟨hblank, hnone⟩)
    · rw [if_pos hblank]
    · rw [if_neg hn.not_blank, parseInteger_trim_eq_ok_iff.mpr hn]
      exact if_neg (by omega)
    · rw [if_neg hn.not_blank, parseInteger_trim_eq_ok_iff.mpr hn]
      exact if_pos hlow
    · obtain ⟨fault, hread⟩ := parseInteger_trim_eq_error hnone
      rw [if_neg hblank, hread]

/-- Every outcome of reading a port, and when it comes. -/
theorem parsePort_eq_iff {value source : String} {outcome : Except Fault Int} :
    parsePort value source = outcome ↔ PortOutcome value source outcome := by
  have hrange (n : Int) : (decide (1 ≤ n) && decide (n ≤ maxPort)) = true ↔ 1 ≤ n ∧ n ≤ 65535 := by
    rw [Bool.and_eq_true, decide_eq_true_iff, decide_eq_true_iff]
    rfl
  unfold parsePort
  constructor
  · rintro rfl
    cases hread : parseInteger (trim value) with
    | error fault =>
        refine .unreadable fun n hn => ?_
        rw [parseInteger_trim_eq_ok_iff.mpr hn] at hread
        contradiction
    | ok n =>
        have hn : Names value n := parseInteger_trim_eq_ok_iff.mp hread
        simp only [hrange]
        split_ifs with hport
        · exact .named hn hport.1 hport.2
        · exact .outOfRange hn hport
  · rintro (⟨hn, hlow, hhigh⟩ | ⟨hn, hport⟩ | hnone)
    · rw [parseInteger_trim_eq_ok_iff.mpr hn]
      exact if_pos ((hrange _).mpr ⟨hlow, hhigh⟩)
    · rw [parseInteger_trim_eq_ok_iff.mpr hn]
      exact if_neg (mt (hrange _).mp hport)
    · obtain ⟨fault, hread⟩ := parseInteger_trim_eq_error hnone
      rw [hread]

/-! ### What is known of a result -/

theorem instanceCount_pos {properties : List (String × String)} {count : Nat}
    (h : instanceCount properties = .ok count) : 0 < count := by
  cases (instanceCount_eq_iff rfl).mp h with
  | blank _ => decide
  | named _ hlow => omega

theorem parsePort_eq_ok {value source : String} {port : Int}
    (h : parsePort value source = .ok port) : 1 ≤ port ∧ port ≤ maxPort := by
  cases parsePort_eq_iff.mp h with
  | named _ hlow hhigh => exact ⟨hlow, hhigh⟩

theorem parsePort_eq_error {value source : String} {fault : Fault}
    (h : parsePort value source = .error fault) : ∃ cause, fault = .badRequest cause := by
  cases parsePort_eq_iff.mp h with
  | outOfRange _ _ => exact ⟨_, rfl⟩
  | unreadable _ => exact ⟨_, rfl⟩

/-! ### Numbers that are written -/

section Written

variable {s : String} {n : Int} (hn : IsWritable n) (hs : IsPadded s (toString n))

include hn hs

theorem instanceCount_written {properties : List (String × String)}
    (h : properties.lookup countProperty = some s) : instanceCount properties =
      if 1 ≤ n then .ok n.toNat else .error (.badRequest (.countTooSmall n)) := by
  have hvalue : (properties.lookup countProperty).getD "" = s := by
    rw [h, Option.getD_some]
  rw [instanceCount_eq_iff hvalue]
  split_ifs with hlow
  · exact .named (names_toString hn hs) hlow
  · exact .tooSmall (names_toString hn hs) (Int.not_le.mp hlow)

theorem parsePort_written (source : String) : parsePort s source =
    if 1 ≤ n ∧ n ≤ 65535 then .ok n else .error (.badRequest (.portOutOfRange source n)) := by
  rw [parsePort_eq_iff]
  split_ifs with hport
  · exact .named (names_toString hn hs) hport.1 hport.2
  · exact .outOfRange (names_toString hn hs) hport

end Written

end AppSupervisor
