import AppSupervisor.Numeral.Double
import Mathlib.Algebra.Ring.Nat
import Mathlib.Order.Nat
import Mathlib.Tactic.Set

/-!
How whole numbers are rounded to double-precision numbers.

A number with more than 53 binary digits is cut to its first 53, and what is cut off decides whether
the next number with as many digits is nearer. So a number is rounded to a power of two, though it
lies below, from the middle of the last unit on: there the tie goes to the power, which is even.
-/

namespace AppSupervisor.Numeral

variable {k n : Nat}

theorem two_pow_le_round53 (hk : 52 ≤ k) (h : 2 ^ k ≤ n) : 2 ^ k ≤ round53 n := by
  have hlog : k ≤ n.log2 := (Nat.le_log2 (Nat.two_pow_pos k |>.trans_le h).ne').mpr h
  set unit := 2 ^ (n.log2 - 52) with hunit
  have hquotient : 2 ^ 52 ≤ n / unit := by
    rw [Nat.le_div_iff_mul_le (Nat.two_pow_pos _), ← Nat.pow_add,
      Nat.add_sub_cancel' (hk.trans hlog)]
    exact Nat.log2_self_le (Nat.two_pow_pos k |>.trans_le h).ne'
  have hrounded : n / unit * unit ≤ round53 n := by
    unfold round53
    simp only [Nat.pow_eq, ← hunit]
    split
    · exact Nat.mul_le_mul_right unit (Nat.le_succ _)
    · exact le_rfl
  calc 2 ^ k ≤ 2 ^ n.log2 := Nat.pow_le_pow_right Nat.two_pos hlog
    _ = 2 ^ 52 * unit := by rw [hunit, ← Nat.pow_add, Nat.add_sub_cancel' (hk.trans hlog)]
    _ ≤ n / unit * unit := Nat.mul_le_mul_right unit hquotient
    _ ≤ round53 n := hrounded

/-- Rounding adds no more than the distance of two neighbours. -/
theorem round53_le_add (h : n.log2 ≤ k + 52) : round53 n ≤ n + 2 ^ k := by
  set unit := 2 ^ (n.log2 - 52) with hunit
  have hsmall : unit ≤ 2 ^ k := Nat.pow_le_pow_right Nat.two_pos (Nat.sub_le_iff_le_add.mpr h)
  have hfloor : n / unit * unit ≤ n := Nat.div_mul_le_self n unit
  have hrounded : round53 n ≤ (n / unit + 1) * unit := by
    unfold round53
    simp only [Nat.pow_eq, ← hunit]
    split
    · exact le_rfl
    · exact Nat.mul_le_mul_right unit (Nat.le_succ _)
  rw [Nat.add_one_mul] at hrounded
  omega

/-- Between two powers of two, a number is rounded to the upper one exactly from half a unit below
it. -/
theorem round53_of_binade (hlow : 2 ^ (k + 53) ≤ n) (hhigh : n < 2 ^ (k + 54)) :
    round53 n < 2 ^ (k + 54) ↔ n < 2 ^ (k + 54) - 2 ^ k := by
  set half := 2 ^ k with hhalf
  have hpositive : 0 < half := Nat.two_pow_pos k
  have htop : 2 ^ (k + 54) = 2 ^ 54 * half := by rw [hhalf, ← Nat.pow_add, Nat.add_comm]
  have hn : n ≠ 0 := (Nat.two_pow_pos _ |>.trans_le hlow).ne'
  have hlog : n.log2 = k + 53 :=
    Nat.le_antisymm (Nat.le_of_lt_succ ((Nat.log2_lt hn).mpr hhigh)) ((Nat.le_log2 hn).mpr hlow)
  have hunit : 2 ^ (n.log2 - 52) = 2 * half := by
    rw [hlog, show k + 53 - 52 = k + 1 by omega, Nat.pow_succ, Nat.mul_comm]
  have hsplit : 2 * half * (n / (2 * half)) + n % (2 * half) = n := Nat.div_add_mod n _
  have hrest : n % (2 * half) < 2 * half := Nat.mod_lt n (by omega)
  have hquotient : n / (2 * half) < 2 ^ 53 := by
    rw [Nat.div_lt_iff_lt_mul (by omega)]
    omega
  unfold round53
  simp only [Nat.pow_eq, hunit]
  generalize n / (2 * half) = quotient at *
  generalize n % (2 * half) = rest at *
  rcases Nat.lt_or_ge quotient (2 ^ 53 - 1) with hinner | hlast
  · have hnext : (quotient + 1) * (2 * half) ≤ (2 ^ 53 - 1) * (2 * half) :=
      Nat.mul_le_mul_right (2 * half) hinner
    have hsame : quotient * (2 * half) = 2 * half * quotient := Nat.mul_comm _ _
    rw [Nat.add_one_mul quotient] at hnext
    rw [Nat.add_one_mul quotient]
    split <;> omega
  · -- the last unit below the power: its upper half is rounded up, its middle too as it is odd
    obtain rfl : quotient = 2 ^ 53 - 1 := by omega
    rcases Nat.lt_or_ge rest half with hdown | hup
    · have hcondition : (decide (2 * half < 2 * rest) ||
          2 * half == 2 * rest && (2 ^ 53 - 1) % 2 == 1) = false := by
        simp
        omega
      rw [if_neg (by rw [hcondition]; decide)]
      omega
    · have hcondition : (decide (2 * half < 2 * rest) ||
          2 * half == 2 * rest && (2 ^ 53 - 1) % 2 == 1) = true := by
        simp
        omega
      rw [if_pos hcondition]
      omega

/-- The least number that is rounded to a power of two or beyond. It lies half a unit below. -/
def leastReaching (top : Nat) : Nat := 2 ^ top - 2 ^ (top - 54)

theorem leastReaching_pos {top : Nat} (htop : 54 ≤ top) : 0 < leastReaching top :=
  Nat.sub_pos_of_lt (Nat.pow_lt_pow_right Nat.one_lt_two (by omega))

theorem round53_lt_two_pow_iff (top : Nat) (htop : 54 ≤ top) (n : Nat) :
    round53 n < Nat.pow 2 top ↔ n < leastReaching top := by
  obtain ⟨k, rfl⟩ := Nat.exists_eq_add_of_le' htop
  rw [leastReaching, Nat.add_sub_cancel, Nat.pow_eq]
  rcases Nat.lt_or_ge n (2 ^ (k + 53)) with hlow | hlow
  · have hlog : n.log2 ≤ k + 52 := by
      rcases Nat.eq_zero_or_pos n with rfl | hn
      · simp
      · exact Nat.le_of_lt_succ ((Nat.log2_lt hn.ne').mpr hlow)
    have hrounded : round53 n ≤ n + 2 ^ k := round53_le_add hlog
    have hmiddle : 2 ^ (k + 53) = 2 ^ 53 * 2 ^ k := by rw [← Nat.pow_add, Nat.add_comm]
    have htop : 2 ^ (k + 54) = 2 ^ 54 * 2 ^ k := by rw [← Nat.pow_add, Nat.add_comm]
    have hpositive : 0 < 2 ^ k := Nat.two_pow_pos k
    rw [hmiddle] at hlow
    rw [htop]
    generalize 2 ^ k = half at *
    omega
  · rcases Nat.lt_or_ge n (2 ^ (k + 54)) with hhigh | hhigh
    · exact round53_of_binade hlow hhigh
    · have hrounded : 2 ^ (k + 54) ≤ round53 n := two_pow_le_round53 (by omega) hhigh
      have habove : 2 ^ (k + 54) - 2 ^ k ≤ n := (Nat.sub_le _ _).trans hhigh
      exact iff_of_false (Nat.not_lt.mpr hrounded) (Nat.not_lt.mpr habove)

/-- The least whole number that is rounded beyond the double-precision numbers: the middle between
the greatest finite one, `2 ^ 1024 - 2 ^ 971`, and the power of two behind it. -/
@[irreducible]
def doubleLimit : Nat := leastReaching 1024

theorem doubleLimit_pos : 0 < doubleLimit := by
  unfold doubleLimit
  exact leastReaching_pos (by decide)

theorem nearestDouble?_isSome_iff (n : Int) :
    (nearestDouble? n).isSome ↔ n.natAbs < doubleLimit := by
  have hfinite := round53_lt_two_pow_iff 1024 (by decide) n.natAbs
  unfold nearestDouble? doubleLimit
  exact Option.isSome_ite.trans hfinite

end AppSupervisor.Numeral
