import CloudGate.Json.Basic
import CloudGate.Proofs.Decimal.Rounding

/-!
Reading of a decimal numeral in several roundings: of the significand, of a power of ten, and of
their product or quotient.

* `Near.mul`, `Near.div`, `Near.rounds`: what one step adds to the error.
* `shrink_near`: numerals with very small exponents are divided twice.
* `ofScaled?_near`: every numeral that is not too large is read, with a few roundoffs.
-/

namespace CloudGate.Decimal.Binary64

/-! ## Errors -/

theorem roundoff_le : roundoff ≤ 1 / 1024 := by
  have hpow : (1 / 1024 : ℚ) = 2 ^ (-10 : Int) := by norm_num
  rw [hpow]
  unfold roundoff
  exact zpow_le_zpow_right₀ one_le_two (by decide)

/-- A value that is off by `relative` roundoffs and `least` halves of the least unit. -/
def Near (relative least exact value : ℚ) : Prop :=
  |value - exact| ≤ relative * roundoff * exact + least * underflow

namespace Near

variable {k j q p v w : ℚ}

theorem le (h : Near k j q v) : v ≤ q + (k * roundoff * q + j * underflow) := by
  have hdiff := (abs_le.mp h).2
  linarith

theorem weaken {k' j' : ℚ} (h : Near k j q v) (hq : 0 ≤ q) (hk : k ≤ k') (hj : j ≤ j') :
    Near k' j' q v := by
  have hroundoff := roundoff_pos.le
  have hunderflow := underflow_pos.le
  refine h.trans ?_
  gcongr

/-- Both errors add up, and the third roundoff covers their product. -/
theorem mul (hv : Near k 0 q v) (hw : Near 1 0 p w) (hk : 0 ≤ k) (hsmall : k ≤ 100) (hq : 0 ≤ q)
    (hp : 0 ≤ p) : Near (k + 2) 0 (q * p) (v * w) := by
  have hε := roundoff_pos
  have hε' := roundoff_le
  unfold Near at *
  generalize roundoff = ε at *
  have hsplit : v * w - q * p = (v - q) * w + q * (w - p) := by ring
  have hwabs : |w| ≤ (1 + ε) * p := by
    have hw := abs_le.mp hw
    rw [abs_le]
    constructor <;> nlinarith
  have hkε : k * ε ≤ 1 := by nlinarith
  calc |v * w - q * p| = |(v - q) * w + q * (w - p)| := by rw [hsplit]
    _ ≤ |(v - q) * w| + |q * (w - p)| := abs_add_le _ _
    _ = |v - q| * |w| + q * |w - p| := by rw [abs_mul, abs_mul, abs_of_nonneg hq]
    _ ≤ (k * ε * q) * ((1 + ε) * p) + q * (ε * p) := by
        have hv : |v - q| ≤ k * ε * q := by linarith
        have hw : |w - p| ≤ ε * p := by linarith
        gcongr
    _ = (k + k * ε + 1) * (ε * (q * p)) := by ring
    _ ≤ (k + 1 + 1) * (ε * (q * p)) := by
        have hpos : 0 ≤ ε * (q * p) := by positivity
        exact mul_le_mul_of_nonneg_right (by linarith) hpos
    _ = (k + 2) * ε * (q * p) + 0 * underflow := by ring

/-- A divisor of one or more does not spread the least units. -/
theorem div (hv : Near k j q v) (hw : Near 1 0 p w) (hk : 0 ≤ k) (hsmall : k ≤ 100) (hj : 0 ≤ j)
    (hq : 0 ≤ q) (hp : 1 ≤ p) : 0 < w ∧ Near (k + 2) (2 * j) (q / p) (v / w) := by
  have hε := roundoff_pos
  have hε' := roundoff_le
  have hτ := underflow_pos
  unfold Near at *
  generalize roundoff = ε at *
  generalize underflow = τ at *
  have hlow : (1 - ε) * p ≤ w := by
    have hw := (abs_le.mp hw).1
    nlinarith
  have hp0 : 0 < p := by linarith
  have hw0 : 0 < w := by
    refine lt_of_lt_of_le ?_ hlow
    exact mul_pos (by linarith) hp0
  have hwabs : |w - p| ≤ ε * p := by linarith
  have hinv : 1 / w ≤ (1 + 2 * ε) / p := by
    have hfactor : 1 ≤ (1 + 2 * ε) * (1 - ε) := by nlinarith
    rw [div_le_div_iff₀ hw0 hp0]
    calc 1 * p ≤ (1 + 2 * ε) * (1 - ε) * p := mul_le_mul_of_nonneg_right hfactor hp0.le
      _ = (1 + 2 * ε) * ((1 - ε) * p) := mul_assoc _ _ _
      _ ≤ (1 + 2 * ε) * w := by gcongr
  -- the second factor of the quotient, `1 / w`, costs one roundoff more than `1 / p`
  have hkε : (k + 1) * (2 * ε) ≤ 1 := by nlinarith
  refine ⟨hw0, ?_⟩
  have hsplit : v / w - q / p = ((v - q) * p - q * (w - p)) / p * (1 / w) := by
    field_simp
    ring
  calc |v / w - q / p| = |(v - q) * p - q * (w - p)| / p * (1 / w) := by
        rw [hsplit, abs_mul, abs_div, abs_of_pos hp0, abs_of_pos (one_div_pos.mpr hw0)]
    _ ≤ ((k * ε * q + j * τ) * p + q * (ε * p)) / p * ((1 + 2 * ε) / p) := by
        have hnum : |(v - q) * p - q * (w - p)| ≤ (k * ε * q + j * τ) * p + q * (ε * p) := by
          refine (abs_sub _ _).trans ?_
          rw [abs_mul, abs_mul, abs_of_pos hp0, abs_of_nonneg hq]
          gcongr
        gcongr
    _ = (k + 1 + (k + 1) * (2 * ε)) * (ε * (q / p)) + j * (1 + 2 * ε) * τ * (1 / p) := by
        field_simp
        ring
    _ ≤ (k + 1 + 1) * (ε * (q / p)) + j * 2 * τ * 1 := by
        have hquotient : 0 ≤ ε * (q / p) := by positivity
        have hinverse : 1 / p ≤ 1 := by
          rw [div_le_one hp0]
          exact hp
        gcongr
        linarith
    _ = (k + 2) * ε * (q / p) + 2 * j * τ := by ring

/-- A rounding is relative to the value that is rounded, not to the exact one. -/
theorem rounds {negative : Bool} {x : Binary64} (hv : Near k j q v) (hx : Rounds v negative x)
    (hk : 0 ≤ k) (hsmall : k ≤ 100) (hj : 0 ≤ j) (hq : 0 ≤ q) (hv0 : 0 ≤ v) :
    Near (k + 2) (2 * j + 1) q x.value := by
  have hε := roundoff_pos
  have hε' := roundoff_le
  have hτ := underflow_pos
  have hle := hv.le
  have herror := hx.error
  unfold Near at *
  generalize roundoff = ε at *
  generalize underflow = τ at *
  have hkε : k * ε ≤ 1 := by nlinarith
  calc |x.value - q| ≤ |x.value - v| + |v - q| := abs_sub_le _ _ _
    _ ≤ (v * ε + τ) + (k * ε * q + j * τ) := by
        have hmax : max (v * ε) τ ≤ v * ε + τ := by
          refine max_le_add_of_nonneg ?_ hτ.le
          positivity
        exact add_le_add (herror.trans hmax) hv
    _ ≤ ((q + (k * ε * q + j * τ)) * ε + τ) + (k * ε * q + j * τ) := by gcongr
    _ = (k + k * ε + 1) * (ε * q) + (j * ε + 1 + j) * τ := by ring
    _ ≤ (k + 1 + 1) * (ε * q) + (j * 1 + 1 + j) * τ := by
        gcongr
        linarith
    _ = (k + 2) * ε * q + (2 * j + 1) * τ := by ring

end Near

/-! ## Steps of the reader -/

theorem lt_pow_sub_pow {n a b : Nat} (h : n + Nat.pow 2 a < Nat.pow 2 b) :
    (n : ℚ) < 2 ^ (b : Int) - 2 ^ (a : Int) := by
  have hpow : ∀ m : Nat, ((Nat.pow 2 m : Nat) : ℚ) = 2 ^ (m : Int) := fun m => by simp
  rw [← hpow, ← hpow, lt_sub_iff_add_lt, ← Nat.cast_add]
  exact Nat.cast_lt.mpr h

theorem ten_pow_lt_overflow {n : Nat} (h : n ≤ 308) : ((Nat.pow 10 n : Nat) : ℚ) < overflow := by
  have hgap : ∀ n < 309, Nat.pow 10 n + Nat.pow 2 970 < Nat.pow 2 1024 := by decide +kernel
  have hlt := lt_pow_sub_pow (hgap n (by omega))
  rw [Nat.cast_ofNat, Nat.cast_ofNat] at hlt
  unfold overflow
  exact hlt

/-- A power of ten that is a multiplier or divisor. -/
theorem ofNat?_near {n : Nat} (h : n ≤ 308) :
    ∃ p, ofNat? (Nat.pow 10 n) = some p ∧ p.negative = false ∧ Near 1 0 (10 ^ n) p.value := by
  obtain ⟨p, hp, hnegative, herror⟩ :=
    ofNat?_rounds (Nat.pow_pos (by decide)) (ten_pow_lt_overflow h) false
  refine ⟨p, hp, hnegative, ?_⟩
  simpa [Near] using herror

/-- A significand of 64 bits. -/
theorem significand_near {s : Nat} (hs : 0 < s) (hfits : (s : Int) ≤ maxUInt64)
    (negative : Bool) :
    ∃ x, ofRatio? negative s 1 = some x ∧ x.negative = negative ∧ Near 1 0 s x.value := by
  have hlt : s < Nat.pow 10 20 := by
    unfold maxUInt64 at hfits
    simp only [Nat.pow_eq]
    omega
  have hsmall : (s : ℚ) < overflow := by
    refine lt_trans ?_ (ten_pow_lt_overflow (n := 20) (by decide))
    exact_mod_cast hlt
  obtain ⟨x, hx, hnegative, herror⟩ := ofNat?_rounds hs hsmall negative
  refine ⟨x, hx, hnegative, ?_⟩
  simpa [Near] using herror

theorem one_le_ten_pow {n : Nat} : (1 : ℚ) ≤ 10 ^ n := one_le_pow₀ (by norm_num)

/-- A division by a power of ten. -/
theorem div?_near {x p : Binary64} {k j q power : ℚ} (hx : Near k j q x.value)
    (hp : Near 1 0 power p.value) (hone : 1 ≤ power) (hk : 0 ≤ k) (hk' : k ≤ 10) (hj : 0 ≤ j)
    (hj' : j ≤ 10) (hq : 0 ≤ q) (hq' : q ≤ 10 ^ 20) :
    ∃ y, div? x p = some y ∧ y.negative = (x.negative != p.negative) ∧
      Near (k + 4) (4 * j + 1) (q / power) y.value := by
  obtain ⟨hpos, hquotient⟩ := hx.div hp hk (by linarith) hj hq hone
  have hq0 : 0 ≤ q / power := by positivity
  have hsmall : x.value / p.value < overflow := by
    have hroundoff := roundoff_le
    have hunderflow := underflow_le.trans hroundoff
    have hle : q / power ≤ 10 ^ 20 := (div_le_self hq hone).trans hq'
    have hbound : (10 : ℚ) ^ 22 < overflow := by
      have hten := ten_pow_lt_overflow (n := 22) (by decide)
      rwa [Nat.pow_eq, Nat.cast_pow, Nat.cast_ofNat] at hten
    calc x.value / p.value
        ≤ q / power + ((k + 2) * roundoff * (q / power) + 2 * j * underflow) := hquotient.le
      _ ≤ 10 ^ 20 + ((10 + 2) * (1 / 1024) * 10 ^ 20 + 2 * 10 * (1 / 1024)) := by
          gcongr
          · exact roundoff_pos.le
          · exact underflow_pos.le
      _ < 10 ^ 22 := by norm_num
      _ < overflow := hbound
  obtain ⟨y, hy, hrounds⟩ := div?_rounds hpos hsmall
  refine ⟨y, hy, hrounds.negative, ?_⟩
  have hnear := hquotient.rounds hrounds (by linarith) (by linarith) (by linarith) hq0
    (div_nonneg x.value_nonneg hpos.le)
  have hk4 : k + 2 + 2 = k + 4 := by ring
  have hj4 : 2 * (2 * j) + 1 = 4 * j + 1 := by ring
  rwa [hk4, hj4] at hnear

/-- A positive exponent multiplies. -/
theorem mul?_near {x p : Binary64} {s : Nat} {n : Nat} (hx : Near 1 0 s x.value)
    (hp : Near 1 0 (10 ^ n) p.value)
    (hlarge : (1 + roundoff) ^ 2 * (s * 10 ^ n) < overflow) :
    ∃ y, mul? x p = some y ∧ y.negative = (x.negative != p.negative) ∧
      Near 5 1 (s * 10 ^ n) y.value := by
  have hs : (0 : ℚ) ≤ s := Nat.cast_nonneg s
  have hpow : (0 : ℚ) ≤ 10 ^ n := by positivity
  have hproduct := hx.mul hp zero_le_one (by norm_num) hs hpow
  have hsmall : x.value * p.value < overflow := by
    have hxle := hx.le
    have hple := hp.le
    calc x.value * p.value
        ≤ ((1 + roundoff) * s) * ((1 + roundoff) * 10 ^ n) := by
          refine mul_le_mul (by linarith) (by linarith) p.value_nonneg ?_
          exact mul_nonneg (by linarith [roundoff_pos]) hs
      _ = (1 + roundoff) ^ 2 * (s * 10 ^ n) := by ring
      _ < overflow := hlarge
  obtain ⟨y, hy, hrounds⟩ := mul?_rounds hsmall
  refine ⟨y, hy, hrounds.negative, ?_⟩
  have hnear := hproduct.rounds hrounds (by norm_num) (by norm_num) le_rfl (by positivity)
    (mul_nonneg x.value_nonneg p.value_nonneg)
  norm_num at hnear
  exact hnear

theorem ne_zero_of_near {x : Binary64} {s : Nat} (hs : 0 < s) (hx : Near 1 0 s x.value) :
    x.mantissa ≠ 0 := by
  intro hzero
  have hvalue : x.value = 0 := by simp [value, hzero]
  have hpos : (0 : ℚ) < s := by exact_mod_cast hs
  have hroundoff := roundoff_le
  have hlow := (abs_le.mp hx).1
  rw [hvalue] at hlow
  nlinarith

/-- The exponents that one division leaves within reach. -/
theorem shrink_reached {x : Binary64} {e : Int} (h : -308 ≤ e) (steps : Nat) :
    shrink (steps + 1) x e = some (x, e) := by
  rw [shrink, if_pos h]

theorem shrink_divides {x p : Binary64} {e : Int} {n : Nat} (hn : n = 308) (h : e < -308)
    (hp : ofNat? (Nat.pow 10 n) = some p) (steps : Nat) :
    shrink (steps + 1) x e = (div? x p).bind fun y => shrink steps y (e + 308) := by
  rw [shrink, if_neg (by omega), ← hn, hp]
  rfl

/-- A value that was divided by a power of ten until the rest of its exponent is within reach. -/
structure Shrunk (s : Nat) (e : Int) (y : Binary64) (rest : Int) : Prop where
  reach : -308 ≤ rest
  neg : rest < 0
  le : e ≤ rest
  near : Near 5 1 (s * 10 ^ (e - rest)) y.value

theorem shrink_near {x : Binary64} {s : Nat} {e : Int} (hx : Near 1 0 s x.value)
    (hs : (s : ℚ) ≤ 10 ^ 20) (hlow : -616 ≤ e) (hneg : e < 0) :
    ∃ y rest, shrink 4 x e = some (y, rest) ∧ y.negative = x.negative ∧ Shrunk s e y rest := by
  have hs0 : (0 : ℚ) ≤ s := Nat.cast_nonneg s
  by_cases he : -308 ≤ e
  · refine ⟨x, e, shrink_reached he 3, rfl, he, hneg, le_refl e, ?_⟩
    rw [sub_self, zpow_zero, mul_one]
    exact hx.weaken hs0 (by norm_num) (by norm_num)
  · obtain ⟨n, hn⟩ : ∃ n : Nat, n = 308 := ⟨_, rfl⟩
    obtain ⟨p, hp, hpsign, hpnear⟩ := ofNat?_near hn.le
    obtain ⟨y, hy, hysign, hynear⟩ := div?_near hx hpnear one_le_ten_pow zero_le_one (by norm_num)
      le_rfl (by norm_num) hs0 hs
    have hshrink : shrink 4 x e = some (y, e + 308) := by
      rw [shrink_divides hn (by omega) hp, hy]
      exact shrink_reached (by omega) 2
    have hscale : (s : ℚ) / 10 ^ n = s * 10 ^ (e - (e + 308)) := by
      have hexponent : e - (e + 308) = -(n : Int) := by omega
      rw [hexponent, zpow_neg, zpow_natCast, div_eq_mul_inv]
    rw [hscale] at hynear
    refine ⟨y, e + 308, hshrink, ?_, by omega, by omega, by omega, ?_⟩
    · rw [hysign, hpsign, Bool.bne_false]
    · exact hynear.weaken (by positivity) (by norm_num) (by norm_num)

/-- Reading of a numeral that is not too large. -/
theorem ofScaled?_near {s : Nat} {e : Int} (hs : 0 < s) (hfits : (s : Int) ≤ maxUInt64)
    (hlow : -616 ≤ e) (hhigh : e ≤ 308)
    (hlarge : (1 + roundoff) ^ 2 * (s * 10 ^ e) < overflow) (negative : Bool) :
    ∃ y, ofScaled? negative s e = some y ∧ y.negative = negative ∧
      Near 9 5 (s * 10 ^ e) y.value := by
  obtain ⟨x, hx, hnegative, hnear⟩ := significand_near hs hfits negative
  unfold ofScaled?
  rw [hx]
  show ∃ y, (if x.mantissa = 0 then _ else _) = _ ∧ _
  rw [if_neg (ne_zero_of_near hs hnear), if_neg (by omega)]
  by_cases he : 0 ≤ e
  · obtain ⟨n, rfl⟩ := Int.eq_ofNat_of_zero_le he
    rw [zpow_natCast] at hlarge ⊢
    obtain ⟨p, hp, hpsign, hpnear⟩ := ofNat?_near (n := n) (by omega)
    obtain ⟨y, hy, hysign, hynear⟩ := mul?_near hnear hpnear hlarge
    rw [if_pos he, Int.toNat_natCast, hp]
    refine ⟨y, hy, ?_, hynear.weaken (by positivity) (by norm_num) (by norm_num)⟩
    rw [hysign, hpsign, hnegative, Bool.bne_false]
  · have hs20 : (s : ℚ) ≤ 10 ^ 20 := by
      have hlt : s ≤ 10 ^ 20 := by
        unfold maxUInt64 at hfits
        omega
      exact_mod_cast hlt
    obtain ⟨z, rest, hz, hzsign, hshrunk⟩ := shrink_near hnear hs20 hlow (by omega)
    obtain ⟨hreach, hneg, hle, hznear⟩ := hshrunk
    have hz20 : (s : ℚ) * 10 ^ (e - rest) ≤ 10 ^ 20 := by
      have hpow : (10 : ℚ) ^ (e - rest) ≤ 1 :=
        zpow_le_one_of_nonpos₀ (by norm_num) (by omega)
      exact (mul_le_of_le_one_right (Nat.cast_nonneg s) hpow).trans hs20
    obtain ⟨n, hn⟩ := Int.eq_ofNat_of_zero_le (a := -rest) (by omega)
    obtain ⟨p, hp, hpsign, hpnear⟩ := ofNat?_near (n := n) (by omega)
    obtain ⟨y, hy, hysign, hynear⟩ := div?_near hznear hpnear one_le_ten_pow (by norm_num)
      (by norm_num) zero_le_one (by norm_num) (by positivity) hz20
    have hscale : (s : ℚ) * 10 ^ (e - rest) / 10 ^ n = s * 10 ^ e := by
      have hexponent : e - rest - (-rest) = e := by ring
      rw [← zpow_natCast, ← hn, mul_div_assoc, ← zpow_sub₀ (by norm_num), hexponent]
    rw [hscale] at hynear
    rw [if_neg he, hz]
    show ∃ y, (ofNat? (Nat.pow 10 (-rest).toNat)).bind _ = _ ∧ _
    rw [hn, Int.toNat_natCast, hp]
    refine ⟨y, hy, ?_, hynear.weaken (by positivity) (by norm_num) (by norm_num)⟩
    rw [hysign, hpsign, hzsign, hnegative, Bool.bne_false]

end CloudGate.Decimal.Binary64
