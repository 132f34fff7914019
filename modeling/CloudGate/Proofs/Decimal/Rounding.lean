import CloudGate.Decimal.Binary64
import Mathlib.Algebra.Order.Field.Power
import Mathlib.Data.Nat.Log
import Mathlib.Tactic.FieldSimp
import Mathlib.Tactic.GCongr
import Mathlib.Tactic.Linarith
import Mathlib.Tactic.NormNum
import Mathlib.Tactic.Positivity
import Mathlib.Tactic.Ring

/-!
Rounding to binary64 numbers, measured in rational numbers.

* `scaledTo_bounds`: a quotient in units of a power of two is rounded by half a unit at most.
* `exponentFor_bounds`: the unit is the least one, or it leaves 53 bits.
* `ofRatio?_rounds`: one rounding. What lies below the overflow becomes a number, off by the
  roundoff of the quotient or half of the least unit.
-/

namespace CloudGate.Decimal

/-! ## Whole numbers -/

theorem divHalfEven_bounds (num : Nat) {den : Nat} (h : 0 < den) :
    2 * num ≤ 2 * den * divHalfEven num den + den ∧
      2 * den * divHalfEven num den ≤ 2 * num + den := by
  have hdiv := Nat.div_add_mod num den
  have hmod := Nat.mod_lt num h
  unfold divHalfEven
  simp only
  generalize num / den = q at *
  generalize num % den = r at *
  subst hdiv
  split
  · constructor <;> nlinarith
  · split
    · constructor <;> nlinarith
    · rcases Nat.mod_two_eq_zero_or_one q with hq | hq
      · rw [hq]
        constructor <;> nlinarith
      · rw [hq]
        constructor <;> nlinarith

namespace Binary64

/-! ## Units -/

/-- The absolute value. -/
def value (x : Binary64) : ℚ := x.mantissa * 2 ^ x.exponent

theorem value_nonneg (x : Binary64) : 0 ≤ x.value := by
  unfold value
  positivity

theorem pow_toNat {e : Int} (h : 0 ≤ e) : ((Nat.pow 2 e.toNat : Nat) : ℚ) = 2 ^ e := by
  obtain ⟨n, rfl⟩ := Int.eq_ofNat_of_zero_le h
  simp

theorem pow_neg_toNat {e : Int} (h : e < 0) : ((Nat.pow 2 (-e).toNat : Nat) : ℚ) = (2 ^ e)⁻¹ := by
  rw [pow_toNat (by omega), zpow_neg]

theorem ratio_value (x : Binary64) :
    0 < x.ratio.2 ∧ (x.ratio.1 : ℚ) / x.ratio.2 = x.value := by
  unfold ratio value
  split
  · rename_i he
    refine ⟨Nat.one_pos, ?_⟩
    rw [Nat.cast_mul, pow_toNat he]
    simp
  · rename_i he
    refine ⟨Nat.pow_pos (by decide), ?_⟩
    simp only [pow_neg_toNat (Int.not_le.mp he), div_inv_eq_mul]

/-- A quotient in units of a power of two, rounded by half a unit at most. -/
theorem scaledTo_bounds (num : Nat) {den : Nat} (h : 0 < den) (e : Int) :
    |scaledTo num den e * 2 ^ e - (num : ℚ) / den| ≤ 2 ^ e / 2 := by
  have hden : (0 : ℚ) < den := by exact_mod_cast h
  have hunit : (0 : ℚ) < 2 ^ e := by positivity
  have hnum : (num : ℚ) / den * den = num := div_mul_cancel₀ _ hden.ne'
  generalize (num : ℚ) / den = quotient at *
  rw [abs_le]
  unfold scaledTo
  split
  · rename_i he
    have hscaled : 0 < den * Nat.pow 2 e.toNat := Nat.mul_pos h (Nat.pow_pos (by decide))
    obtain ⟨hlow, hhigh⟩ := divHalfEven_bounds num hscaled
    generalize divHalfEven num (den * Nat.pow 2 e.toNat) = q at *
    have hlow : (2 * num : ℚ) ≤ 2 * (den * 2 ^ e) * q + den * 2 ^ e := by
      rw [← pow_toNat he]
      exact_mod_cast hlow
    have hhigh : 2 * (den * 2 ^ e) * q ≤ (2 * num : ℚ) + den * 2 ^ e := by
      rw [← pow_toNat he]
      exact_mod_cast hhigh
    constructor
    · refine le_of_mul_le_mul_right ?_ hden
      linarith
    · refine le_of_mul_le_mul_right ?_ hden
      linarith
  · rename_i he
    have hpow := pow_neg_toNat (Int.not_le.mp he)
    obtain ⟨hlow, hhigh⟩ := divHalfEven_bounds (num * Nat.pow 2 (-e).toNat) h
    generalize divHalfEven (num * Nat.pow 2 (-e).toNat) den = q at *
    have hlow : 2 * (num * (2 ^ e : ℚ)⁻¹) ≤ 2 * den * q + den := by
      rw [← hpow]
      exact_mod_cast hlow
    have hhigh : (2 * den * q : ℚ) ≤ 2 * (num * (2 ^ e : ℚ)⁻¹) + den := by
      rw [← hpow]
      exact_mod_cast hhigh
    have hlow := mul_le_mul_of_nonneg_right hlow hunit.le
    have hhigh := mul_le_mul_of_nonneg_right hhigh hunit.le
    have hscaled : 2 * (num * (2 ^ e : ℚ)⁻¹) * 2 ^ e = 2 * num := by field_simp
    rw [hscaled] at hlow
    rw [add_mul, hscaled] at hhigh
    constructor
    · refine le_of_mul_le_mul_right ?_ hden
      linarith
    · refine le_of_mul_le_mul_right ?_ hden
      linarith

theorem pow_log2_le {num den : Nat} (hnum : 0 < num) (hden : 0 < den) :
    (2 : ℚ) ^ ((Nat.log2 num : Int) - Nat.log2 den - 1) ≤ (num : ℚ) / den := by
  have hlow : ((2 ^ Nat.log2 num : Nat) : ℚ) ≤ num := by
    exact_mod_cast Nat.log2_self_le (Nat.ne_of_gt hnum)
  have hhigh : (den : ℚ) ≤ ((2 ^ (Nat.log2 den + 1) : Nat) : ℚ) := by
    exact_mod_cast Nat.lt_log2_self.le
  have hpos : (0 : ℚ) < den := by exact_mod_cast hden
  have hsplit : (2 : ℚ) ^ ((Nat.log2 num : Int) - Nat.log2 den - 1) *
      ((2 ^ (Nat.log2 den + 1) : Nat) : ℚ) = ((2 ^ Nat.log2 num : Nat) : ℚ) := by
    push_cast
    rw [← zpow_natCast, ← zpow_natCast, ← zpow_add₀ two_ne_zero]
    congr 1
    push_cast
    ring
  rw [le_div_iff₀ hpos]
  calc (2 : ℚ) ^ ((Nat.log2 num : Int) - Nat.log2 den - 1) * den
      ≤ 2 ^ ((Nat.log2 num : Int) - Nat.log2 den - 1) * ((2 ^ (Nat.log2 den + 1) : Nat) : ℚ) := by
        gcongr
    _ = ((2 ^ Nat.log2 num : Nat) : ℚ) := hsplit
    _ ≤ num := hlow

/-- The unit is the least one, or the quotient has 53 bits at least. -/
theorem exponentFor_bounds {num den : Nat} (hnum : 0 < num) (hden : 0 < den) :
    exponentFor num den = -1074 ∨
      (2 : ℚ) ^ (exponentFor num den + 52) ≤ (num : ℚ) / den := by
  have hbits := pow_log2_le hnum hden
  have hpos : (0 : ℚ) < den := by exact_mod_cast hden
  unfold exponentFor
  extract_lets e reaches
  have hreaches : reaches = true → (2 : ℚ) ^ (e + 53) ≤ (num : ℚ) / den := by
    intro h
    have hunit : (0 : ℚ) < 2 ^ e := by positivity
    have hsplit : (2 : ℚ) ^ (e + 53) = 2 ^ 53 * 2 ^ e := by
      rw [zpow_add₀ two_ne_zero, mul_comm]
      rfl
    rw [le_div_iff₀ hpos, hsplit]
    simp only [reaches] at h
    split at h
    · rename_i he
      have hcast : ((den * Nat.pow 2 (53 + e.toNat) : Nat) : ℚ) ≤ num := by
        exact_mod_cast of_decide_eq_true h
      have hpow : ((Nat.pow 2 (53 + e.toNat) : Nat) : ℚ) = 2 ^ 53 * 2 ^ e := by
        rw [← pow_toNat he, Nat.pow_eq, Nat.pow_eq, Nat.pow_add, Nat.cast_mul, Nat.cast_pow,
          Nat.cast_ofNat]
      rw [Nat.cast_mul, hpow] at hcast
      linarith
    · rename_i he
      have hcast : ((den * Nat.pow 2 53 : Nat) : ℚ) ≤ (num * Nat.pow 2 (-e).toNat : Nat) := by
        exact_mod_cast of_decide_eq_true h
      rw [Nat.cast_mul, Nat.cast_mul, pow_neg_toNat (Int.not_le.mp he), ← div_eq_mul_inv,
        le_div_iff₀ hunit, Nat.pow_eq, Nat.cast_pow, Nat.cast_ofNat] at hcast
      linarith
  rcases Int.le_total (if reaches = true then e + 1 else e) (-1074) with hleast | hleast
  · exact .inl (max_eq_right hleast)
  · refine .inr ?_
    rw [max_eq_left hleast]
    split
    · rename_i h
      have hexponent : e + 1 + 52 = e + 53 := by ring
      rw [hexponent]
      exact hreaches h
    · have hexponent : e + 52 = (Nat.log2 num : Int) - Nat.log2 den - 1 := by
        show (Nat.log2 num : Int) - Nat.log2 den - 53 + 52 = _
        ring
      rw [hexponent]
      exact hbits

/-! ## One rounding -/

/-- The error of a number of 53 bits, relative to it. -/
@[irreducible]
def roundoff : ℚ := 2 ^ (-53 : Int)

/-- The error of a number that has fewer bits: half of the least unit. -/
@[irreducible]
def underflow : ℚ := 2 ^ (-1075 : Int)

/-- The least quotient that is rounded beyond the largest number. -/
@[irreducible]
def overflow : ℚ := 2 ^ (1024 : Int) - 2 ^ (970 : Int)

theorem roundoff_pos : 0 < roundoff := by
  unfold roundoff
  positivity

theorem underflow_pos : 0 < underflow := by
  unfold underflow
  positivity

theorem underflow_le : underflow ≤ roundoff := by
  unfold underflow roundoff
  exact zpow_le_zpow_right₀ one_le_two (by decide)

/-- A number that a quotient is rounded to. -/
structure Rounds (quotient : ℚ) (negative : Bool) (x : Binary64) : Prop where
  negative : x.negative = negative
  error : |x.value - quotient| ≤ max (quotient * roundoff) underflow

theorem half_unit_le {num den : Nat} (hnum : 0 < num) (hden : 0 < den) :
    (2 : ℚ) ^ exponentFor num den / 2 ≤ max ((num : ℚ) / den * roundoff) underflow := by
  have hhalf : (2 : ℚ) ^ exponentFor num den / 2 = 2 ^ (exponentFor num den - 1) := by
    rw [zpow_sub_one₀ two_ne_zero]
    rfl
  rw [hhalf]
  rcases exponentFor_bounds hnum hden with hleast | hbits
  · rw [hleast]
    refine le_trans (le_of_eq ?_) (le_max_right _ _)
    unfold underflow
    rfl
  · have hsplit : (2 : ℚ) ^ (exponentFor num den - 1) =
        2 ^ (exponentFor num den + 52) * roundoff := by
      unfold roundoff
      rw [← zpow_add₀ two_ne_zero]
      congr 1
      ring
    rw [hsplit]
    refine le_trans ?_ (le_max_left _ _)
    exact mul_le_mul_of_nonneg_right hbits roundoff_pos.le

theorem exponentFor_le {num den : Nat} (hnum : 0 < num) (hden : 0 < den)
    (h : (num : ℚ) / den < overflow) : exponentFor num den ≤ 971 := by
  rcases exponentFor_bounds hnum hden with hleast | hbits
  · omega
  · by_contra hlarge
    have hpow : (2 : ℚ) ^ (1024 : Int) ≤ 2 ^ (exponentFor num den + 52) :=
      zpow_le_zpow_right₀ one_le_two (by omega)
    have hhalf : (0 : ℚ) < 2 ^ (970 : Int) := by positivity
    unfold overflow at h
    exact absurd (hpow.trans hbits) (not_le.mpr (h.trans (sub_lt_self _ hhalf)))

/-- Only the overflow carries beyond the largest exponent. -/
theorem exponentFor_lt_of_carry {num den : Nat} (hnum : 0 < num) (hden : 0 < den)
    (h : (num : ℚ) / den < overflow)
    (hcarry : scaledTo num den (exponentFor num den) = Nat.pow 2 53) :
    exponentFor num den < 971 := by
  refine lt_of_le_of_ne (exponentFor_le hnum hden h) fun heq => ?_
  have hhigh := (abs_le.mp (scaledTo_bounds num hden (exponentFor num den))).2
  have hcarried : ((Nat.pow 2 53 : Nat) : ℚ) * 2 ^ (971 : Int) = 2 ^ (1024 : Int) := by
    have hpow : ((Nat.pow 2 53 : Nat) : ℚ) = 2 ^ (53 : Int) := @pow_toNat 53 (by decide)
    rw [hpow, ← zpow_add₀ two_ne_zero]
    rfl
  have hhalf : (2 : ℚ) ^ (971 : Int) / 2 = 2 ^ (970 : Int) := by
    rw [div_eq_mul_inv, ← zpow_sub_one₀ two_ne_zero]
    rfl
  rw [hcarry, heq, hcarried, hhalf] at hhigh
  unfold overflow at h
  exact absurd hhigh (not_le.mpr (lt_sub_comm.mp h))

/-- What lies below the overflow becomes a number. -/
theorem ofRatio?_rounds {num den : Nat} (hden : 0 < den) (h : (num : ℚ) / den < overflow)
    (negative : Bool) :
    ∃ x, ofRatio? negative num den = some x ∧ Rounds ((num : ℚ) / den) negative x := by
  unfold ofRatio?
  split
  · rename_i hzero
    refine ⟨_, rfl, rfl, ?_⟩
    simp [value, zero, hzero, underflow_pos.le]
  · rename_i hne
    have hnum : 0 < num := Nat.pos_of_ne_zero hne
    have herror := (scaledTo_bounds num hden (exponentFor num den)).trans
      (half_unit_le hnum hden)
    have hexponent := exponentFor_le hnum hden h
    simp only
    by_cases hcarry : scaledTo num den (exponentFor num den) = Nat.pow 2 53
    · have hlt := exponentFor_lt_of_carry hnum hden h hcarry
      rw [if_pos hcarry, if_pos (by simp only; omega)]
      refine ⟨_, rfl, rfl, ?_⟩
      have hvalue : value ⟨negative, Nat.pow 2 52, exponentFor num den + 1⟩ =
          scaledTo num den (exponentFor num den) * 2 ^ exponentFor num den := by
        rw [hcarry, value, zpow_add_one₀ two_ne_zero]
        simp only [Nat.pow_eq, Nat.cast_pow, Nat.cast_ofNat]
        ring
      rw [hvalue]
      exact herror
    · rw [if_neg hcarry, if_pos hexponent]
      exact ⟨_, rfl, rfl, herror⟩

theorem mul?_rounds {x y : Binary64} (h : x.value * y.value < overflow) :
    ∃ z, mul? x y = some z ∧ Rounds (x.value * y.value) (x.negative != y.negative) z := by
  obtain ⟨hx, hxvalue⟩ := ratio_value x
  obtain ⟨hy, hyvalue⟩ := ratio_value y
  have hquotient : ((x.ratio.1 * y.ratio.1 : Nat) : ℚ) / (x.ratio.2 * y.ratio.2 : Nat) =
      x.value * y.value := by
    rw [← hxvalue, ← hyvalue, Nat.cast_mul, Nat.cast_mul, div_mul_div_comm]
  have hrounds := ofRatio?_rounds (Nat.mul_pos hx hy) (hquotient ▸ h) (x.negative != y.negative)
  rw [hquotient] at hrounds
  exact hrounds

theorem div?_rounds {x y : Binary64} (hpos : 0 < y.value) (h : x.value / y.value < overflow) :
    ∃ z, div? x y = some z ∧ Rounds (x.value / y.value) (x.negative != y.negative) z := by
  obtain ⟨hx, hxvalue⟩ := ratio_value x
  obtain ⟨hy, hyvalue⟩ := ratio_value y
  have hnum : 0 < y.ratio.1 := by
    refine Nat.pos_of_ne_zero fun hzero => ?_
    rw [← hyvalue, hzero, Nat.cast_zero, zero_div] at hpos
    exact lt_irrefl _ hpos
  have hquotient : ((x.ratio.1 * y.ratio.2 : Nat) : ℚ) / (x.ratio.2 * y.ratio.1 : Nat) =
      x.value / y.value := by
    rw [← hxvalue, ← hyvalue, Nat.cast_mul, Nat.cast_mul, div_div_div_eq]
  have hrounds := ofRatio?_rounds (Nat.mul_pos hx hnum) (hquotient ▸ h)
    (x.negative != y.negative)
  rw [hquotient] at hrounds
  exact hrounds

/-- A positive integer has no error beyond the roundoff. -/
theorem ofNat?_rounds {n : Nat} (hn : 0 < n) (h : (n : ℚ) < overflow) (negative : Bool) :
    ∃ x, ofRatio? negative n 1 = some x ∧ x.negative = negative ∧
      |x.value - n| ≤ roundoff * n := by
  have hquotient : (n : ℚ) / (1 : Nat) < overflow := by
    rw [Nat.cast_one, div_one]
    exact h
  obtain ⟨x, hx, hnegative, herror⟩ := ofRatio?_rounds Nat.one_pos hquotient negative
  refine ⟨x, hx, hnegative, ?_⟩
  have hone : (1 : ℚ) ≤ n := by exact_mod_cast hn
  have htiny : underflow ≤ n * roundoff := by
    calc underflow ≤ roundoff := underflow_le
      _ = 1 * roundoff := (one_mul _).symm
      _ ≤ n * roundoff := mul_le_mul_of_nonneg_right hone roundoff_pos.le
  rw [Nat.cast_one, div_one, max_eq_left htiny, mul_comm] at herror
  exact herror

end Binary64

end CloudGate.Decimal
