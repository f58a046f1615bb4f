import AppSupervisor.Numeral.Integer
import AppSupervisor.Proofs.Trimming
import Mathlib.Data.Nat.Digits.Lemmas

/-!
Numerals and the numbers that they spell.

A numeral is told by a grammar: a sign or none, and digits of any script with single underscores
between them, not more of them than are read. Reading a text gives a number exactly if a numeral in
it, with blanks around, spells that number. The decimal text of a number that is not too long is
such a numeral, and no number that is read is too long to be written.
-/

namespace AppSupervisor.Numeral

open AppSupervisor.Text

inductive SpellsDigits : List Char → List Nat → Prop
  | last {c : Char} {d : Nat} (hc : digitValue? c = some d) : SpellsDigits [c] [d]
  | next {c : Char} {d : Nat} {cs : List Char} {ds : List Nat} (hc : digitValue? c = some d)
      (hrest : SpellsDigits cs ds) : SpellsDigits (c :: cs) (d :: ds)
  | apart {c : Char} {d : Nat} {cs : List Char} {ds : List Nat} (hc : digitValue? c = some d)
      (hrest : SpellsDigits cs ds) : SpellsDigits (c :: '_' :: cs) (d :: ds)

def SpellsNat (cs : List Char) (n : Nat) : Prop :=
  ∃ ds, SpellsDigits cs ds ∧ ds.length ≤ digitLimit ∧ n = Nat.ofDigits 10 ds.reverse

inductive Spells : List Char → Int → Prop
  | plain {cs : List Char} {n : Nat} (h : SpellsNat cs n) : Spells cs n
  | plus {cs : List Char} {n : Nat} (h : SpellsNat cs n) : Spells ('+' :: cs) n
  | minus {cs : List Char} {n : Nat} (h : SpellsNat cs n) : Spells ('-' :: cs) (-n)

def Names (s : String) (n : Int) : Prop :=
  ∃ numeral, IsPadded s numeral ∧ Spells numeral.toList n

/-- A number whose decimal text has not more digits than are read. -/
def IsWritable (n : Int) : Prop :=
  (Nat.toDigits 10 n.natAbs).length ≤ digitLimit

instance : DecidablePred IsWritable := fun n =>
  inferInstanceAs (Decidable ((Nat.toDigits 10 n.natAbs).length ≤ digitLimit))

theorem isWritable_iff {n : Int} : IsWritable n ↔ n.natAbs < 10 ^ digitLimit :=
  Nat.length_toDigits_le_iff (by decide) (by decide)

/-! ### Digits -/

theorem char_le_iff {c d : Char} : c ≤ d ↔ c.toNat ≤ d.toNat := Iff.rfl

theorem digitValue?_of_isDigit {c : Char} (h : c.isDigit) :
    digitValue? c = some (c.toNat - '0'.toNat) := by
  have hfirst : zeroCodes.find? (fun first => first ≤ c.toNat && c.toNat ≤ first + 9) =
      some '0'.toNat :=
    List.find?_cons_of_pos (by simpa using Char.isDigit_iff_toNat.mp h)
  rw [digitValue?, hfirst, Option.map_some]

theorem isDigit_of_hexValue? {c : Char} {d : Nat} (h : hexValue? c = some d) (hd : d < 10) :
    c.isDigit := by
  simp only [hexValue?, Bool.and_eq_true, decide_eq_true_eq, char_le_iff, Char.reduceToNat] at h
  rw [Char.isDigit_iff_toNat]
  split_ifs at h with hdigit hlower hupper
  · exact hdigit
  · cases h
    omega
  · cases h
    omega

/-- Letters are no digits in the decimal system. -/
theorem digitIn?_ten (c : Char) : digitIn? 10 c = digitValue? c := by
  unfold digitIn?
  cases hvalue : digitValue? c with
  | some d => simp [digitValue?_lt hvalue]
  | none =>
      rw [Option.none_or, Option.filter_eq_none_iff]
      intro d hd hsmall
      rw [digitValue?_of_isDigit (isDigit_of_hexValue? hd (by simpa using hsmall))] at hvalue
      contradiction

theorem isBlank_of_digit {c : Char} {d : Nat} (h : digitValue? c = some d) :
    isBlank c = false := by
  obtain ⟨first, hfind, -⟩ := Option.map_eq_some_iff.mp h
  have hrange : first ≤ c.toNat ∧ c.toNat ≤ first + 9 := by
    simpa using List.find?_some hfind
  have hapart : ∀ first ∈ zeroCodes, ∀ code ∈ blankCodes, ¬(first ≤ code ∧ code ≤ first + 9) := by
    decide +kernel
  rw [isBlank, Bool.eq_false_iff, ne_eq, List.contains_iff_mem]
  exact fun hblank => hapart first (List.mem_of_find?_eq_some hfind) _ hblank hrange

/-- What may stand behind a digit: nothing, or more digits with an underscore in front or none. -/
def Continues (cs : List Char) (ds : List Nat) : Prop :=
  (cs = [] ∧ ds = []) ∨ SpellsDigits cs ds ∨ ∃ rest, cs = '_' :: rest ∧ SpellsDigits rest ds

theorem spellsDigits_cons_iff {c : Char} {cs : List Char} {ds : List Nat} :
    SpellsDigits (c :: cs) ds ↔
      ∃ d more, ds = d :: more ∧ digitValue? c = some d ∧ Continues cs more := by
  constructor
  · rintro (hc | ⟨hc, hrest⟩ | ⟨hc, hrest⟩)
    · exact ⟨_, [], rfl, hc, Or.inl ⟨rfl, rfl⟩⟩
    · exact ⟨_, _, rfl, hc, Or.inr (Or.inl hrest)⟩
    · exact ⟨_, _, rfl, hc, Or.inr (Or.inr ⟨_, rfl, hrest⟩)⟩
  · rintro ⟨d, more, rfl, hc, ⟨rfl, rfl⟩ | hrest | ⟨rest, rfl, hrest⟩⟩
    · exact .last hc
    · exact .next hc hrest
    · exact .apart hc hrest

theorem digitValue?_underscore : digitValue? '_' = none := by decide

theorem not_spellsDigits_underscore {cs : List Char} {ds : List Nat} :
    ¬SpellsDigits ('_' :: cs) ds := by
  rw [spellsDigits_cons_iff]
  rintro ⟨d, more, -, hc, -⟩
  rw [digitValue?_underscore] at hc
  contradiction

/-- A scan comes to the end of a text exactly if digits are what the text holds. -/
theorem scanDigits_eq_some_iff (cs : List Char) (ds : List Nat) :
    (scanDigits 10 false cs = some (ds, []) ↔ SpellsDigits cs ds) ∧
      (scanDigits 10 true cs = some (ds, []) ↔ Continues cs ds) := by
  induction cs generalizing ds with
  | nil =>
      refine ⟨iff_of_false (by simp [scanDigits]) nofun, ?_⟩
      constructor
      · intro hscan
        cases hscan
        exact Or.inl ⟨rfl, rfl⟩
      · rintro (⟨-, rfl⟩ | hdigits | ⟨rest, hrest, -⟩)
        · rfl
        · contradiction
        · contradiction
  | cons c rest ih =>
      by_cases hunderscore : c = '_'
      · subst hunderscore
        have hcontinues : Continues ('_' :: rest) ds ↔ SpellsDigits rest ds := by
          simp [Continues, not_spellsDigits_underscore]
        refine ⟨iff_of_false (by simp [scanDigits]) not_spellsDigits_underscore, ?_⟩
        rw [hcontinues, ← (ih ds).1]
        simp [scanDigits]
      · have hcontinues : Continues (c :: rest) ds ↔ SpellsDigits (c :: rest) ds := by
          simp [Continues, hunderscore]
        rw [hcontinues, spellsDigits_cons_iff]
        cases hvalue : digitValue? c with
        | none => simp [scanDigits, hunderscore, digitIn?_ten, hvalue]
        | some d =>
            have hread : ((scanDigits 10 true rest).map fun found => (d :: found.1, found.2)) =
                some (ds, []) ↔ ∃ more, ds = d :: more ∧ Continues rest more := by
              simp only [← (ih _).2, Option.map_eq_some_iff, Prod.exists, Prod.mk.injEq]
              constructor
              · rintro ⟨more, _, hscan, rfl, rfl⟩
                exact ⟨more, rfl, hscan⟩
              · rintro ⟨more, rfl, hscan⟩
                exact ⟨more, [], hscan, rfl, rfl⟩
            simp [scanDigits, hunderscore, digitIn?_ten, hvalue, hread]

/-! ### Reading a number -/

theorem ofDigits_eq (base : Nat) (digits : List Nat) :
    ofDigits base digits = Nat.ofDigits base digits.reverse := by
  rw [ofDigits, Nat.ofDigits_eq_foldr, List.foldr_reverse]
  refine congrArg (fun step => digits.foldl step 0) ?_
  funext n d
  rw [Nat.cast_id, Nat.mul_comm, Nat.add_comm]

theorem spellsNat_iff {cs : List Char} {n : Nat} : SpellsNat cs n ↔
    ∃ ds, scanDigits 10 false cs = some (ds, []) ∧ ds.length ≤ digitLimit ∧ n = ofDigits 10 ds := by
  simp only [SpellsNat, (scanDigits_eq_some_iff cs _).1, ofDigits_eq]

theorem SpellsNat.digit_first {c : Char} {cs : List Char} {n : Nat} (h : SpellsNat (c :: cs) n) :
    (digitValue? c).isSome := by
  obtain ⟨ds, hdigits, -, -⟩ := h
  obtain ⟨d, more, -, hc, -⟩ := spellsDigits_cons_iff.mp hdigits
  simp [hc]

theorem SpellsNat.takeSign_eq {cs : List Char} {n : Nat} (h : SpellsNat cs n) :
    takeSign cs = (false, cs) := by
  have hsign : digitValue? '-' = none ∧ digitValue? '+' = none := by decide
  unfold takeSign
  split
  · have hdigit := h.digit_first
    rw [hsign.1] at hdigit
    contradiction
  · have hdigit := h.digit_first
    rw [hsign.2] at hdigit
    contradiction
  · rfl

/-- A numeral is a sign or none in front of digits. -/
theorem spells_iff {cs : List Char} {n : Int} :
    Spells cs n ↔ ∃ m, SpellsNat (takeSign cs).2 m ∧ n = signed (takeSign cs).1 m := by
  constructor
  · rintro (⟨h⟩ | ⟨h⟩ | ⟨h⟩)
    · rw [h.takeSign_eq]
      exact ⟨_, h, rfl⟩
    · exact ⟨_, h, rfl⟩
    · exact ⟨_, h, rfl⟩
  · rintro ⟨m, hdigits, rfl⟩
    unfold takeSign at hdigits ⊢
    split at hdigits
    · exact .minus hdigits
    · exact .plus hdigits
    · exact .plain hdigits

theorem dropBaseMark_ten (cs : List Char) : dropBaseMark 10 cs = cs := by
  unfold dropBaseMark
  split <;> rfl

theorem parseInteger_eq_ok_iff {s : String} {n : Int} :
    parseInteger s = .ok n ↔ Spells (trimUnicode s.toList) n := by
  rw [spells_iff]
  simp only [spellsNat_iff, parseInteger, parseIn, dropBaseMark_ten]
  cases hscan : scanDigits 10 false (takeSign (trimUnicode s.toList)).2 with
  | none => simp
  | some found =>
      obtain ⟨digits, rest⟩ := found
      by_cases hlimit : digitLimit < digits.length
      · simp [hlimit]
      · cases rest with
        | nil => simp [hlimit, Nat.not_lt.mp hlimit, eq_comm (a := n)]
        | cons c rest => simp [hlimit]

theorem SpellsDigits.no_blank {cs : List Char} {ds : List Nat} (h : SpellsDigits cs ds) :
    ∀ c ∈ cs, isBlank c = false := by
  have hunderscore : isBlank '_' = false := by decide
  induction h with
  | last hc => simpa using isBlank_of_digit hc
  | next hc _ ih => exact List.forall_mem_cons.mpr ⟨isBlank_of_digit hc, ih⟩
  | apart hc _ ih =>
      exact List.forall_mem_cons.mpr
        ⟨isBlank_of_digit hc, List.forall_mem_cons.mpr ⟨hunderscore, ih⟩⟩

theorem Spells.no_blank {cs : List Char} {n : Int} (h : Spells cs n) :
    ∀ c ∈ cs, isBlank c = false := by
  have hsign : isBlank '-' = false ∧ isBlank '+' = false := by decide
  rcases h with ⟨_, h, -⟩ | ⟨_, h, -⟩ | ⟨_, h, -⟩
  · exact h.no_blank
  · exact List.forall_mem_cons.mpr ⟨hsign.2, h.no_blank⟩
  · exact List.forall_mem_cons.mpr ⟨hsign.1, h.no_blank⟩

theorem trimUnicode_of_isTrimmed {s : String} (h : IsTrimmed s) :
    trimUnicode s.toList = s.toList := by
  have hspace {c : Char} (hc : isBlank c = false) : isUnicodeSpace c = false := by
    rw [isUnicodeSpace, hc, Bool.false_and]
  have hfront : s.toList.dropWhile isUnicodeSpace = s.toList := by
    rw [List.dropWhile_eq_self_iff]
    intro hlength
    have hfirst : isBlank s.toList[0] = false :=
      h.first _ (by rw [List.head?_eq_getElem?, List.getElem?_eq_getElem hlength]; rfl)
    simp [hspace hfirst]
  have hback : s.toList.rdropWhile isUnicodeSpace = s.toList := by
    rw [List.rdropWhile_eq_self_iff]
    intro hne
    have hlast : isBlank (s.toList.getLast hne) = false :=
      h.last _ (List.getLast?_eq_some_getLast hne)
    simp [hspace hlast]
  calc trimUnicode s.toList
      = (s.toList.dropWhile isUnicodeSpace).rdropWhile isUnicodeSpace := rfl
    _ = s.toList := by rw [hfront, hback]

/-- A text without the blanks around it is read exactly if it names a number. -/
theorem parseInteger_trim_eq_ok_iff {s : String} {n : Int} :
    parseInteger (trim s) = .ok n ↔ Names s n := by
  rw [parseInteger_eq_ok_iff, trimUnicode_of_isTrimmed (trim_isTrimmed s)]
  constructor
  · intro h
    exact ⟨trim s, isPadded_trim s, h⟩
  · rintro ⟨numeral, hpadded, h⟩
    rwa [hpadded.trim_eq (.of_no_blank h.no_blank)]

/-! ### Numbers that can be written -/

theorem SpellsDigits.lt_ten {cs : List Char} {ds : List Nat} (h : SpellsDigits cs ds) :
    ∀ d ∈ ds, d < 10 := by
  induction h with
  | last hc => simpa using digitValue?_lt hc
  | next hc _ ih => exact List.forall_mem_cons.mpr ⟨digitValue?_lt hc, ih⟩
  | apart hc _ ih => exact List.forall_mem_cons.mpr ⟨digitValue?_lt hc, ih⟩

theorem SpellsNat.lt {cs : List Char} {n : Nat} (h : SpellsNat cs n) : n < 10 ^ digitLimit := by
  obtain ⟨ds, hdigits, hlength, rfl⟩ := h
  calc Nat.ofDigits 10 ds.reverse < 10 ^ ds.reverse.length :=
        Nat.ofDigits_lt_base_pow_length (by decide) (by simpa using hdigits.lt_ten)
    _ ≤ 10 ^ digitLimit := Nat.pow_le_pow_right (by decide) (by simpa using hlength)

theorem Spells.isWritable {cs : List Char} {n : Int} (h : Spells cs n) : IsWritable n := by
  rw [isWritable_iff]
  rcases h with ⟨h⟩ | ⟨h⟩ | ⟨h⟩ <;> simpa using h.lt

theorem spellsDigits_of_isDigit {cs : List Char} (hne : cs ≠ []) (h : ∀ c ∈ cs, c.isDigit) :
    SpellsDigits cs (cs.map fun c => c.toNat - '0'.toNat) := by
  induction cs with
  | nil => contradiction
  | cons c rest ih =>
      have hc := digitValue?_of_isDigit (h c List.mem_cons_self)
      cases rest with
      | nil => exact .last hc
      | cons next more =>
          exact .next hc (ih (by simp) fun c hc => h c (List.mem_cons_of_mem _ hc))

theorem spellsNat_toDigits {n : Nat} (h : (Nat.toDigits 10 n).length ≤ digitLimit) :
    SpellsNat (Nat.toDigits 10 n) n := by
  have hdigits : ∀ c ∈ Nat.toDigits 10 n, c.isDigit :=
    fun c => Nat.isDigit_of_mem_toDigits (by decide) (by decide)
  refine ⟨_, spellsDigits_of_isDigit Nat.toDigits_ne_nil hdigits, by simpa using h, ?_⟩
  have hvalue : Nat.ofDigitChars 10 (Nat.toDigits 10 n) 0 = n := Nat.ofDigitChars_ten_toDigits
  rw [← ofDigits_eq, ofDigits, List.foldl_map]
  simpa only [Nat.ofDigitChars_eq_foldl, Nat.mul_comm 10] using hvalue.symm

/-- The decimal text of a number is a numeral of it. -/
theorem spells_toString {n : Int} (h : IsWritable n) : Spells (toString n).toList n := by
  cases n with
  | ofNat m =>
      have htext : (toString (Int.ofNat m)).toList = Nat.toDigits 10 m := by
        change m.repr.toList = _
        rw [Nat.repr_eq_ofList_toDigits, String.toList_ofList]
      rw [htext]
      exact .plain (spellsNat_toDigits h)
  | negSucc m =>
      have htext : (toString (Int.negSucc m)).toList = '-' :: Nat.toDigits 10 (m + 1) := by
        change ("-" ++ (m + 1).repr).toList = _
        simp [Nat.repr_eq_ofList_toDigits, String.toList_append]
      rw [htext]
      exact .minus (spellsNat_toDigits h)

theorem names_toString {n : Int} {s : String} (hn : IsWritable n) (hs : IsPadded s (toString n)) :
    Names s n :=
  ⟨toString n, hs, spells_toString hn⟩

theorem Names.isWritable {s : String} {n : Int} (h : Names s n) : IsWritable n := by
  obtain ⟨numeral, -, hspells⟩ := h
  exact hspells.isWritable

end AppSupervisor.Numeral
