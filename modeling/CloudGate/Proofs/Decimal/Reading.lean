import CloudGate.Proofs.Decimal.Shortest

/-!
Reading of the shortest numeral of a number. The reader rounds more than once, so that it may not
get the same number, but it always gets one close to it.

* `around_close`: numerals half a unit away read as close numbers, unless they are too large.
* `largest_close`: the largest numbers, one by one.
* `shortest_close`, `padded_close`: the numeral, also when it is filled up with zeros.
-/

namespace CloudGate.Decimal

open Binary64

/-- The number of the same sign that is read for another one. It is off by 16 roundoffs, which is
eight units of its last place, and a few of the least units. -/
structure Close (x y : Binary64) : Prop where
  negative : y.negative = x.negative
  near : Near 16 8 x.value y.value

theorem Close.refl (x : Binary64) : Close x x := by
  refine ⟨rfl, ?_⟩
  have hroundoff := roundoff_pos
  have hunderflow := underflow_pos
  have hvalue := x.value_nonneg
  unfold Near
  rw [sub_self, abs_zero]
  positivity

/-- Half a unit is within the error of one rounding. -/
theorem half_unit_le_value {x : Binary64} (h : x.IsValid) :
    (2 : ℚ) ^ (x.exponent - 1) ≤ roundoff * x.value + underflow := by
  have hroundoff := roundoff_pos
  have hunderflow := underflow_pos
  have hvalue := x.value_nonneg
  rcases h.normal with hnormal | hleast
  · have hbits : (2 : ℚ) ^ (52 : Int) ≤ x.mantissa := by
      rw [zpow_ofNat]
      exact_mod_cast hnormal
    have hle : (2 : ℚ) ^ (x.exponent - 1) ≤ roundoff * x.value := by
      calc (2 : ℚ) ^ (x.exponent - 1)
          = roundoff * (2 ^ (52 : Int) * 2 ^ x.exponent) := by
            unfold roundoff
            rw [← zpow_add₀ two_ne_zero, ← zpow_add₀ two_ne_zero]
            congr 1
            ring
        _ ≤ roundoff * x.value := by
            unfold value
            gcongr
    linarith
  · have hle : (2 : ℚ) ^ (x.exponent - 1) = underflow := by
      rw [hleast]
      unfold underflow
      rfl
    rw [hle]
    have hproduct : 0 ≤ roundoff * x.value := by positivity
    linarith

theorem around_close {x : Binary64} (h : x.IsValid) {s : Nat} {e : Int} (hs : 0 < s)
    (hfits : (s : Int) ≤ maxUInt64) (hlow : -616 ≤ e) (hhigh : e ≤ 308)
    (hlarge : (1 + roundoff) ^ 2 * (s * 10 ^ e) < overflow)
    (haround : |(s : ℚ) * 10 ^ e - x.value| ≤ 2 ^ (x.exponent - 1)) :
    ∃ y, ofScaled? x.negative s e = some y ∧ Close x y := by
  obtain ⟨y, hy, hnegative, hnear⟩ := ofScaled?_near hs hfits hlow hhigh hlarge x.negative
  refine ⟨y, hy, hnegative, ?_⟩
  have haround := haround.trans (half_unit_le_value h)
  have hvalue := x.value_nonneg
  have hroundoff := roundoff_pos
  have hroundoff' := roundoff_le
  have hunderflow := underflow_pos
  unfold Near at *
  generalize (s : ℚ) * 10 ^ e = numeral at *
  generalize roundoff = ε at *
  generalize underflow = τ at *
  have hnumeral : numeral ≤ x.value + (ε * x.value + τ) := by
    have hdiff := (abs_le.mp haround).2
    linarith
  calc |y.value - x.value| ≤ |y.value - numeral| + |numeral - x.value| := abs_sub_le _ _ _
    _ ≤ (9 * ε * numeral + 5 * τ) + (ε * x.value + τ) := add_le_add hnear haround
    _ ≤ (9 * ε * (x.value + (ε * x.value + τ)) + 5 * τ) + (ε * x.value + τ) := by gcongr
    _ = (10 + 9 * ε) * (ε * x.value) + (6 + 9 * ε) * τ := by ring
    _ ≤ 16 * (ε * x.value) + 8 * τ := by
        gcongr
        · linarith
        · linarith
    _ = 16 * ε * x.value + 8 * τ := by ring

/-! ## Below the overflow -/

/-- The overflow and the space below it, in halves of the largest unit. -/
theorem overflow_eq : overflow = (2 ^ 54 - 1) * 2 ^ (970 : Int) := by
  have hfull : (2 : ℚ) ^ (1024 : Int) = 2 ^ 54 * 2 ^ (970 : Int) := by
    rw [← zpow_ofNat, ← zpow_add₀ two_ne_zero]
    rfl
  unfold overflow
  rw [hfull]
  ring

/-- All numbers but the largest ones, with half a unit. -/
theorem value_le {x : Binary64} (h : x.IsValid)
    (hbelow : x.exponent ≤ 970 ∨ x.mantissa + 4 < Nat.pow 2 53) :
    x.value + 2 ^ (x.exponent - 1) ≤ (2 ^ 54 - 9) * 2 ^ (970 : Int) := by
  have hsum : x.value + 2 ^ (x.exponent - 1) = (2 * x.mantissa + 1) * 2 ^ (x.exponent - 1) := by
    have hexponent : x.exponent = 1 + (x.exponent - 1) := by ring
    rw [value]
    nth_rewrite 1 [hexponent]
    rw [zpow_one_add₀ two_ne_zero]
    ring
  have hbits : (2 * x.mantissa + 1 : ℚ) ≤ 2 ^ 54 - 1 := by
    have hnat : 2 * x.mantissa + 2 ≤ 2 ^ 54 := by
      have hbits := h.bits
      simp only [Nat.pow_eq] at hbits
      omega
    have hcast : (2 * x.mantissa + 2 : ℚ) ≤ 2 ^ 54 := by exact_mod_cast hnat
    linarith
  rw [hsum]
  rcases le_or_gt x.exponent 970 with hsmall | hlarge
  · calc (2 * x.mantissa + 1 : ℚ) * 2 ^ (x.exponent - 1)
        ≤ (2 ^ 54 - 1) * 2 ^ (969 : Int) := by
          gcongr
          · exact one_le_two
          · omega
      _ = (2 ^ 54 - 1) / 2 * 2 ^ (970 : Int) := by
          have hhalf : (2 : ℚ) ^ (969 : Int) = 2 ^ (970 : Int) / 2 := by
            rw [div_eq_mul_inv, ← zpow_sub_one₀ two_ne_zero]
            rfl
          rw [hhalf]
          ring
      _ ≤ (2 ^ 54 - 9) * 2 ^ (970 : Int) := by
          gcongr
          norm_num
  · have hexponent : x.exponent = 971 := le_antisymm h.high hlarge
    have hnat : 2 * x.mantissa + 10 ≤ 2 ^ 54 := by
      have hbits := hbelow.resolve_left (by omega)
      simp only [Nat.pow_eq] at hbits
      omega
    have hcast : (2 * x.mantissa + 10 : ℚ) ≤ 2 ^ 54 := by exact_mod_cast hnat
    rw [hexponent]
    show (2 * x.mantissa + 1 : ℚ) * 2 ^ (970 : Int) ≤ _
    gcongr
    linarith

theorem lt_overflow {q : ℚ} (h : q ≤ (2 ^ 54 - 9) * 2 ^ (970 : Int)) :
    (1 + roundoff) ^ 2 * q < overflow := by
  have hunit : (0 : ℚ) < 2 ^ (970 : Int) := by positivity
  have hfactor : (1 + roundoff) ^ 2 * (2 ^ 54 - 9) < 2 ^ 54 - 1 := by
    unfold roundoff
    norm_num
  calc (1 + roundoff) ^ 2 * q
      ≤ (1 + roundoff) ^ 2 * ((2 ^ 54 - 9) * 2 ^ (970 : Int)) := by gcongr
    _ = (1 + roundoff) ^ 2 * (2 ^ 54 - 9) * 2 ^ (970 : Int) := by ring
    _ < (2 ^ 54 - 1) * 2 ^ (970 : Int) := by gcongr
    _ = overflow := overflow_eq.symm

theorem lt_ten_pow : (2 ^ 54 - 9) * 2 ^ (970 : Int) < (10 : ℚ) ^ (309 : Int) := by
  have hpow : ∀ a b : Nat, Nat.pow 2 a ≤ Nat.pow 10 b → (2 : ℚ) ^ (a : Int) ≤ 10 ^ (b : Int) := by
    intro a b h
    rw [zpow_natCast, zpow_natCast]
    exact_mod_cast h
  have hsplit : (2 : ℚ) ^ ((1024 : Nat) : Int) = 2 ^ 54 * 2 ^ (970 : Int) := by
    rw [← zpow_ofNat, ← zpow_add₀ two_ne_zero]
    rfl
  have hunit : (0 : ℚ) < 2 ^ (970 : Int) := by positivity
  have hfull := hpow 1024 309 (by decide +kernel)
  rw [hsplit] at hfull
  refine lt_of_lt_of_le ?_ hfull
  gcongr
  norm_num

/-! ## The numeral of a number -/

/-- The four largest numbers are read as themselves or as the next number. -/
theorem largest_read : ∀ i < 4, ∀ negative : Bool,
    let x : Binary64 := ⟨negative, Nat.pow 2 53 - 4 + i, 971⟩
    ∃ carry ≤ 1, ofScaled? negative (shortest x).digits (shortest x).exponent =
      some ⟨negative, x.mantissa + carry, 971⟩ := by
  decide +kernel

theorem next_close {x : Binary64} (hnormal : Nat.pow 2 52 ≤ x.mantissa) {carry : Nat}
    (hcarry : carry ≤ 1) : Close x ⟨x.negative, x.mantissa + carry, x.exponent⟩ := by
  refine ⟨rfl, ?_⟩
  have hunit : (0 : ℚ) < 2 ^ x.exponent := by positivity
  have hunderflow := underflow_pos
  have hbits : (2 : ℚ) ^ 52 ≤ x.mantissa := by exact_mod_cast hnormal
  have hone : (carry : ℚ) ≤ 1 := by exact_mod_cast hcarry
  have hroundoff : 1 ≤ 16 * roundoff * x.mantissa := by
    have hprecise : 1 ≤ 16 * roundoff * 2 ^ 52 := by
      unfold roundoff
      norm_num
    refine hprecise.trans ?_
    have hpos := roundoff_pos
    gcongr
  unfold Near value
  push_cast
  have hdiff : ((x.mantissa : ℚ) + carry) * 2 ^ x.exponent - x.mantissa * 2 ^ x.exponent =
      carry * 2 ^ x.exponent := by ring
  rw [hdiff, abs_of_nonneg (by positivity)]
  calc (carry : ℚ) * 2 ^ x.exponent ≤ 16 * roundoff * x.mantissa * 2 ^ x.exponent := by
        gcongr
        exact hone.trans hroundoff
    _ = 16 * roundoff * (x.mantissa * 2 ^ x.exponent) := by ring
    _ ≤ 16 * roundoff * (x.mantissa * 2 ^ x.exponent) + 8 * underflow := by linarith

theorem largest_close {x : Binary64} (h : x.IsValid)
    (hlarge : ¬ (x.exponent ≤ 970 ∨ x.mantissa + 4 < Nat.pow 2 53)) :
    ∃ y, ofScaled? x.negative (shortest x).digits (shortest x).exponent = some y ∧ Close x y := by
  obtain ⟨negative, mantissa, exponent⟩ := x
  obtain ⟨hbits, -, hhigh, -⟩ := h
  simp only at *
  rw [not_or] at hlarge
  obtain rfl : exponent = 971 := by omega
  obtain ⟨i, hi, rfl⟩ : ∃ i < 4, mantissa = Nat.pow 2 53 - 4 + i :=
    ⟨mantissa - (Nat.pow 2 53 - 4), by omega, by omega⟩
  obtain ⟨carry, hcarry, hread⟩ := largest_read i hi negative
  refine ⟨_, hread, next_close ?_ hcarry⟩
  have hnormal : Nat.pow 2 52 ≤ Nat.pow 2 53 - 4 := by decide
  exact hnormal.trans (Nat.le_add_right _ _)

/-- The reader gets a close number from the numeral. -/
theorem shortest_close {x : Binary64} (h : x.IsValid) (hx : 0 < x.mantissa) :
    ∃ y, ofScaled? x.negative (shortest x).digits (shortest x).exponent = some y ∧ Close x y := by
  obtain ⟨hpos, hsize, hlow, hhigh, haround⟩ := shortest_spells h hx
  by_cases hbelow : x.exponent ≤ 970 ∨ x.mantissa + 4 < Nat.pow 2 53
  · have hle : ((shortest x).digits : ℚ) * 10 ^ (shortest x).exponent ≤
        (2 ^ 54 - 9) * 2 ^ (970 : Int) := by
      have hdiff := (abs_le.mp haround).2
      have hvalue := value_le h hbelow
      linarith
    have hhigh : (shortest x).exponent ≤ 308 := by
      refine Int.le_of_lt_add_one (lt_of_le_of_ne hhigh fun hexponent => ?_)
      rw [hexponent] at hle
      have hone : (1 : ℚ) ≤ (shortest x).digits := by exact_mod_cast hpos
      have hten : (0 : ℚ) < 10 ^ (309 : Int) := by positivity
      exact absurd (le_mul_of_one_le_left hten.le hone) (not_le.mpr (hle.trans_lt lt_ten_pow))
    refine around_close h hpos ?_ (by omega) hhigh (lt_overflow hle) haround
    simp only [Nat.pow_eq] at hsize
    unfold maxUInt64
    omega
  · exact largest_close h hbelow

/-- The reader gets a close number from the numeral of an integer that is filled up with zeros and
has a zero behind the point. -/
theorem padded_close {x : Binary64} (h : x.IsValid) (hx : 0 < x.mantissa) {zeros : Nat}
    (hzeros : (shortest x).exponent = zeros)
    (hsize : (shortest x).digits * Nat.pow 10 zeros < Nat.pow 10 18) :
    ∃ y, ofScaled? x.negative ((shortest x).digits * Nat.pow 10 zeros * 10) (-1) = some y ∧
      Close x y := by
  obtain ⟨hpos, -, -, -, haround⟩ := shortest_spells h hx
  have hsignificand : 0 < (shortest x).digits * Nat.pow 10 zeros * 10 :=
    Nat.mul_pos (Nat.mul_pos hpos (Nat.pow_pos (by decide))) (by decide)
  have hvalue : (((shortest x).digits * Nat.pow 10 zeros * 10 : Nat) : ℚ) * 10 ^ (-1 : Int) =
      (shortest x).digits * 10 ^ (shortest x).exponent := by
    rw [hzeros, zpow_natCast, zpow_neg_one]
    push_cast [Nat.pow_eq]
    exact mul_inv_cancel_right₀ (by norm_num) _
  refine around_close h hsignificand ?_ (by decide) (by decide) ?_ ?_
  · simp only [Nat.pow_eq] at hsize ⊢
    unfold maxUInt64
    omega
  · have hle : (((shortest x).digits * Nat.pow 10 zeros : Nat) : ℚ) ≤ 10 ^ 18 := by
      exact_mod_cast hsize.le
    have hpow : (2 : ℚ) ^ (10 : Int) ≤ 2 ^ (970 : Int) :=
      zpow_le_zpow_right₀ one_le_two (by decide)
    refine lt_overflow ?_
    rw [Nat.cast_mul, Nat.cast_ofNat, zpow_neg_one, mul_inv_cancel_right₀ (by norm_num)]
    calc (((shortest x).digits * Nat.pow 10 zeros : Nat) : ℚ) ≤ 10 ^ 18 := hle
      _ ≤ (2 ^ 54 - 9) * 2 ^ (10 : Int) := by norm_num
      _ ≤ (2 ^ 54 - 9) * 2 ^ (970 : Int) := mul_le_mul_of_nonneg_left hpow (by norm_num)
  · rw [hvalue]
    exact haround

end CloudGate.Decimal
