import CloudGate.Decimal.Shortest
import CloudGate.Proofs.Decimal.Scaled

/-!
The shortest numeral of a binary64 number.

* `nearest?_around`: a grid point that reads back is half a unit away at most.
* `nearest?_isSome`: there is one if the grid is as fine as a quarter of a unit.
* `topExponent_bounds`: the search starts above the number, but not far above it.
* `shortest_spells`: it finds a numeral of at most 18 digits, half a unit away at most.
-/

namespace CloudGate.Decimal

/-! ## Grid points -/

namespace GridView

variable {g : GridView} {ends : Bool} {d : Nat}

theorem holds_bounds (h : g.holds ends d = true) :
    g.lower ≤ d * g.step ∧ d * g.step ≤ g.upper := by
  unfold holds at h
  split at h
  · simpa using h
  · simp only [Bool.and_eq_true, decide_eq_true_eq] at h
    exact ⟨h.1.le, h.2.le⟩

theorem holds_of_lt (hlower : g.lower < d * g.step) (hupper : d * g.step < g.upper) :
    g.holds ends d = true := by
  unfold holds
  split
  · simp [hlower.le, hupper.le]
  · simp [hlower, hupper]

theorem nearest?_holds (h : g.nearest? ends = some d) : g.holds ends d = true := by
  unfold nearest? at h
  simp only at h
  generalize g.value / g.step = low at h
  by_cases hlow : g.holds ends low = true
  · by_cases hhigh : g.holds ends (low + 1) = true
    · rw [if_pos (by simp [hlow, hhigh])] at h
      have hnear : d = low ∨ d = low + 1 := by
        split at h
        · exact .inl (Option.some.inj h).symm
        · split at h
          · exact .inr (Option.some.inj h).symm
          · have heven := Option.some.inj h
            omega
      rcases hnear with rfl | rfl
      · exact hlow
      · exact hhigh
    · rw [if_neg (by simp [hhigh]), if_pos hlow] at h
      obtain rfl := Option.some.inj h
      exact hlow
  · rw [if_neg (by simp [hlow]), if_neg hlow] at h
    split at h
    · rename_i hhigh
      obtain rfl := Option.some.inj h
      exact hhigh
    · contradiction

/-- A fine grid has a point in the lower half of the interval. -/
theorem nearest?_of_step (hstep : 0 < g.step) (hlower : g.lower + g.step ≤ g.value)
    (hupper : g.value < g.upper) : ∃ d, g.nearest? ends = some d := by
  have hfloor := Nat.div_mul_le_self g.value g.step
  have hnext := Nat.lt_div_mul_add hstep (a := g.value)
  have hlow : g.holds ends (g.value / g.step) = true := by
    refine holds_of_lt ?_ (Nat.lt_of_le_of_lt hfloor hupper)
    omega
  unfold nearest?
  simp only [hlow, Bool.true_and]
  split
  · split
    · exact ⟨_, rfl⟩
    · split
      · exact ⟨_, rfl⟩
      · exact ⟨_, rfl⟩
  · exact ⟨_, rfl⟩

end GridView

/-- The first grid that has a point. -/
theorem searchGrid_found {x : Binary64} {steps : Nat} {k : Int}
    (h : ∃ j < steps, ∃ d, (gridView x (k - j)).nearest? (x.mantissa % 2 == 0) = some d) :
    ∃ j < steps, ∃ d, searchGrid x steps k = ⟨d, k - j⟩ ∧
      (gridView x (k - j)).nearest? (x.mantissa % 2 == 0) = some d ∧
      (0 < j → (gridView x (k - j + 1)).nearest? (x.mantissa % 2 == 0) = none) := by
  induction steps generalizing k with
  | zero =>
    obtain ⟨j, hj, -⟩ := h
    exact absurd hj (Nat.not_lt_zero j)
  | succ steps ih =>
    cases hfirst : (gridView x k).nearest? (x.mantissa % 2 == 0) with
    | some d =>
      refine ⟨0, Nat.succ_pos _, d, ?_, by simpa using hfirst,
        fun hpos => absurd hpos (lt_irrefl 0)⟩
      simp [searchGrid, hfirst]
    | none =>
      obtain ⟨j, hj, d, hd⟩ := h
      obtain ⟨j, rfl⟩ : ∃ i, j = i + 1 := by
        refine Nat.exists_eq_succ_of_ne_zero ?_
        rintro rfl
        simp [hfirst] at hd
      have hshift : ∀ i : Nat, k - ((i + 1 : Nat) : Int) = k - 1 - i := fun i => by omega
      rw [hshift] at hd
      obtain ⟨i, hi, d', hsearch, hfound, hbefore⟩ := ih ⟨j, by omega, d, hd⟩
      refine ⟨i + 1, by omega, d', ?_, ?_, fun _ => ?_⟩
      · rw [searchGrid, hfirst, hshift]
        exact hsearch
      · rw [hshift]
        exact hfound
      · rw [hshift]
        rcases Nat.eq_zero_or_pos i with rfl | hpos
        · simpa using hfirst
        · exact hbefore hpos

/-! ## The grid in rational numbers -/

namespace Binary64

/-- The finite binary64 numbers: 53 bits, and the first one is set if the exponent is not the least
one. -/
structure IsValid (x : Binary64) : Prop where
  bits : x.mantissa < Nat.pow 2 53
  low : -1074 ≤ x.exponent
  high : x.exponent ≤ 971
  normal : Nat.pow 2 52 ≤ x.mantissa ∨ x.exponent = -1074

instance (x : Binary64) : Decidable x.IsValid :=
  decidable_of_iff (x.mantissa < Nat.pow 2 53 ∧ -1074 ≤ x.exponent ∧ x.exponent ≤ 971 ∧
      (Nat.pow 2 52 ≤ x.mantissa ∨ x.exponent = -1074))
    ⟨fun ⟨bits, low, high, normal⟩ => ⟨bits, low, high, normal⟩,
      fun h => ⟨h.bits, h.low, h.high, h.normal⟩⟩

end Binary64

theorem pow_toNat_mul {b : Nat} (hb : 0 < b) (e : Int) :
    ((Nat.pow b e.toNat : Nat) : ℚ) = (b : ℚ) ^ e * (Nat.pow b (-e).toNat : Nat) := by
  have hb0 : (b : ℚ) ≠ 0 := by exact_mod_cast hb.ne'
  rw [Nat.pow_eq, Nat.pow_eq, Nat.cast_pow, Nat.cast_pow, ← zpow_natCast, ← zpow_natCast,
    ← zpow_add₀ hb0]
  congr 1
  omega

/-- A quarter of a unit, and a step of the grid, in the unit of a view. -/
theorem gridView_scale (x : Binary64) (k : Int) :
    ∃ quarter : Nat, ∃ scale : ℚ, 0 < scale ∧ (quarter : ℚ) = 2 ^ (x.exponent - 2) * scale ∧
      ((gridView x k).step : ℚ) = 10 ^ k * scale ∧
      (gridView x k).value = 4 * x.mantissa * quarter ∧
      (gridView x k).upper = (4 * x.mantissa + 2) * quarter ∧
      ((gridView x k).lower = (4 * x.mantissa - 1) * quarter ∨
        (gridView x k).lower = (4 * x.mantissa - 2) * quarter) := by
  refine ⟨Nat.pow 2 (x.exponent - 2).toNat * Nat.pow 10 (-k).toNat,
    (Nat.pow 10 (-k).toNat : Nat) * (Nat.pow 2 (-(x.exponent - 2)).toNat : Nat), ?_, ?_, ?_, rfl,
    rfl, ?_⟩
  · have hten : 0 < Nat.pow 10 (-k).toNat := Nat.pow_pos (by decide)
    have htwo : 0 < Nat.pow 2 (-(x.exponent - 2)).toNat := Nat.pow_pos (by decide)
    positivity
  · rw [Nat.cast_mul, pow_toNat_mul two_pos]
    push_cast
    ring
  · show ((Nat.pow 10 k.toNat * Nat.pow 2 (-(x.exponent - 2)).toNat : Nat) : ℚ) = _
    rw [Nat.cast_mul, pow_toNat_mul (by decide : 0 < 10) k]
    push_cast
    ring
  · unfold gridView
    simp only
    split
    · exact .inl rfl
    · exact .inr rfl

theorem value_quarters (x : Binary64) : x.value = 4 * x.mantissa * 2 ^ (x.exponent - 2) := by
  rw [Binary64.value, zpow_sub₀ two_ne_zero, zpow_ofNat]
  ring

theorem half_quarters (e : Int) : (2 : ℚ) ^ (e - 1) = 2 * 2 ^ (e - 2) := by
  rw [← zpow_one_add₀ two_ne_zero]
  congr 1
  ring

/-- A grid point that reads back is half a unit away at most. -/
theorem nearest?_around {x : Binary64} {k : Int} {ends : Bool} {d : Nat}
    (hx : 0 < x.mantissa) (h : (gridView x k).nearest? ends = some d) :
    0 < d ∧ |(d : ℚ) * 10 ^ k - x.value| ≤ 2 ^ (x.exponent - 1) := by
  obtain ⟨hlower, hupper⟩ := GridView.holds_bounds (GridView.nearest?_holds h)
  obtain ⟨quarter, scale, hscale, hquarter, hstep, -, hup, hlow⟩ := gridView_scale x k
  have hlow : (4 * x.mantissa - 2) * quarter ≤ d * (gridView x k).step := by
    refine Nat.le_trans ?_ hlower
    rcases hlow with hlow | hlow
    · rw [hlow]
      exact Nat.mul_le_mul_right _ (by omega)
    · exact hlow.ge
  have htwo : ((4 * x.mantissa - 2 : Nat) : ℚ) = 4 * x.mantissa - 2 := by
    rw [Nat.cast_sub (by omega)]
    push_cast
    rfl
  have hlow : (4 * x.mantissa - 2 : ℚ) * 2 ^ (x.exponent - 2) ≤ d * 10 ^ k := by
    refine le_of_mul_le_mul_right ?_ hscale
    rw [mul_assoc, mul_assoc, ← hquarter, ← hstep, ← htwo]
    exact_mod_cast hlow
  have hhigh : (d : ℚ) * 10 ^ k ≤ (4 * x.mantissa + 2) * 2 ^ (x.exponent - 2) := by
    refine le_of_mul_le_mul_right ?_ hscale
    rw [mul_assoc, mul_assoc, ← hquarter, ← hstep]
    rw [hup] at hupper
    exact_mod_cast hupper
  constructor
  · refine Nat.pos_of_ne_zero ?_
    rintro rfl
    have hmantissa : (1 : ℚ) ≤ x.mantissa := by exact_mod_cast hx
    have hpos : (0 : ℚ) < 2 ^ (x.exponent - 2) := by positivity
    rw [Nat.cast_zero, zero_mul] at hlow
    nlinarith
  · rw [value_quarters, half_quarters, abs_le]
    constructor <;> linarith

/-- A grid as fine as a quarter of a unit has a point. -/
theorem nearest?_isSome {x : Binary64} {k : Int} (hx : 0 < x.mantissa)
    (h : (10 : ℚ) ^ k ≤ 2 ^ (x.exponent - 2)) (ends : Bool) :
    ∃ d, (gridView x k).nearest? ends = some d := by
  obtain ⟨quarter, scale, hscale, hquarter, hstep, hvalue, hup, hlow⟩ := gridView_scale x k
  have hpos : 0 < (gridView x k).step := by
    have hcast : (0 : ℚ) < (gridView x k).step := by
      rw [hstep]
      positivity
    exact_mod_cast hcast
  have hle : (gridView x k).step ≤ quarter := by
    have hcast : ((gridView x k).step : ℚ) ≤ quarter := by
      rw [hstep, hquarter]
      exact mul_le_mul_of_nonneg_right h hscale.le
    exact_mod_cast hcast
  have hlow : (gridView x k).lower ≤ (4 * x.mantissa - 1) * quarter := by
    rcases hlow with hlow | hlow
    · exact hlow.le
    · rw [hlow]
      exact Nat.mul_le_mul_right _ (by omega)
  refine GridView.nearest?_of_step hpos ?_ ?_
  · calc (gridView x k).lower + (gridView x k).step
        ≤ (4 * x.mantissa - 1) * quarter + 1 * quarter := by
          rw [Nat.one_mul]
          exact Nat.add_le_add hlow hle
      _ = (gridView x k).value := by
          rw [← Nat.add_mul, Nat.sub_add_cancel (by omega), hvalue]
  · rw [hvalue, hup]
    exact Nat.mul_lt_mul_of_pos_right (by omega) (Nat.lt_of_lt_of_le hpos hle)

/-! ## Where the search starts -/

section Powers

variable {n m : Nat} {b q : Int}

/-- A power of ten near a power of two: its own powers stay near. -/
theorem pow_near (hlow : Nat.pow 2 m ≤ Nat.pow 10 n) (hhigh : Nat.pow 10 n ≤ Nat.pow 2 (m + 1))
    (hb : |b| ≤ m) :
    (2 : ℚ) ^ (m * (b - 1)) ≤ 10 ^ (n * b) ∧ (10 : ℚ) ^ (n * b) ≤ 2 ^ (m * (b + 1)) := by
  have hlow : (2 : ℚ) ^ m ≤ 10 ^ n := by exact_mod_cast hlow
  have hhigh : (10 : ℚ) ^ n ≤ 2 ^ (m + 1) := by exact_mod_cast hhigh
  obtain ⟨hb1, hb2⟩ := abs_le.mp hb
  have hmono : ∀ {i j : Int}, i ≤ j → (2 : ℚ) ^ i ≤ 2 ^ j :=
    fun h => zpow_le_zpow_right₀ one_le_two h
  rcases Int.le_total 0 b with hpos | hneg
  · obtain ⟨c, rfl⟩ := Int.eq_ofNat_of_zero_le hpos
    have hten : (10 : ℚ) ^ ((n : Int) * c) = (10 ^ n) ^ c := by
      rw [zpow_mul, zpow_natCast, zpow_natCast]
    rw [hten]
    constructor
    · calc (2 : ℚ) ^ ((m : Int) * (c - 1)) ≤ 2 ^ ((m : Int) * c) := hmono (by nlinarith)
        _ = (2 ^ m) ^ c := by rw [zpow_mul, zpow_natCast, zpow_natCast]
        _ ≤ (10 ^ n) ^ c := by gcongr
    · calc ((10 : ℚ) ^ n) ^ c ≤ (2 ^ (m + 1)) ^ c := by gcongr
        _ = 2 ^ (((m + 1 : Nat) : Int) * c) := by rw [zpow_mul, zpow_natCast, zpow_natCast]
        _ ≤ 2 ^ ((m : Int) * (c + 1)) := hmono (by push_cast; nlinarith)
  · obtain ⟨c, hc⟩ := Int.eq_ofNat_of_zero_le (a := -b) (by omega)
    obtain rfl : b = -c := by omega
    have hten : (10 : ℚ) ^ ((n : Int) * -c) = ((10 ^ n) ^ c)⁻¹ := by
      rw [mul_neg, zpow_neg, zpow_mul, zpow_natCast, zpow_natCast]
    rw [hten]
    constructor
    · calc (2 : ℚ) ^ ((m : Int) * (-c - 1)) ≤ 2 ^ (-(((m + 1 : Nat) : Int) * c)) :=
            hmono (by push_cast; nlinarith)
        _ = ((2 ^ (m + 1)) ^ c)⁻¹ := by rw [zpow_neg, zpow_mul, zpow_natCast, zpow_natCast]
        _ ≤ ((10 ^ n) ^ c)⁻¹ := by gcongr
    · calc (((10 : ℚ) ^ n) ^ c)⁻¹ ≤ ((2 ^ m) ^ c)⁻¹ := by gcongr
        _ = 2 ^ (-((m : Int) * c)) := by rw [zpow_neg, zpow_mul, zpow_natCast, zpow_natCast]
        _ ≤ 2 ^ ((m : Int) * (-c + 1)) := hmono (by nlinarith)

/-- The whole part of the decimal logarithm of `2 ^ b`, computed with the ratio of two logarithms,
may be off by one bit. -/
theorem pow_between (hlow : Nat.pow 2 m ≤ Nat.pow 10 n) (hhigh : Nat.pow 10 n ≤ Nat.pow 2 (m + 1))
    (hm : 0 < m) (hb : |b| ≤ m) (hq : m * q ≤ n * b) (hq' : n * b < m * (q + 1)) :
    (10 : ℚ) ^ q ≤ 2 ^ (b + 1) ∧ (2 : ℚ) ^ (b - 1) ≤ 10 ^ (q + 1) := by
  obtain ⟨hbelow, habove⟩ := pow_near hlow hhigh hb
  have hroot : ∀ (base : ℚ) (i : Int), base ^ ((m : Int) * i) = (base ^ i) ^ m := by
    intro base i
    rw [mul_comm, zpow_mul, zpow_natCast]
  have hmono : ∀ {i j : Int}, i ≤ j → (10 : ℚ) ^ i ≤ 10 ^ j :=
    fun h => zpow_le_zpow_right₀ (by norm_num) h
  constructor
  · refine (pow_le_pow_iff_left₀ (by positivity) (by positivity) hm.ne').mp ?_
    rw [← hroot, ← hroot]
    exact (hmono hq).trans habove
  · refine (pow_le_pow_iff_left₀ (by positivity) (by positivity) hm.ne').mp ?_
    rw [← hroot, ← hroot]
    exact hbelow.trans (hmono hq'.le)

end Powers

theorem Binary64.IsValid.log2_le {x : Binary64} (h : x.IsValid) : Nat.log2 x.mantissa ≤ 52 := by
  rcases Nat.eq_zero_or_pos x.mantissa with hzero | hpos
  · simp [hzero]
  · exact Nat.le_of_lt_succ ((Nat.log2_lt hpos.ne').mpr h.bits)

theorem topExponent_bounds {x : Binary64} (h : x.IsValid) :
    (10 : ℚ) ^ (topExponent x - 1) ≤ 2 ^ ((Nat.log2 x.mantissa : Int) + 1 + x.exponent + 1) ∧
      (2 : ℚ) ^ ((Nat.log2 x.mantissa : Int) + 1 + x.exponent - 1) ≤ 10 ^ topExponent x := by
  have hlog := h.log2_le
  have hlow := h.low
  have hhigh := h.high
  unfold topExponent
  generalize hb : (Nat.log2 x.mantissa : Int) + 1 + x.exponent = b
  rw [Int.fdiv_eq_ediv_of_nonneg _ (by decide), add_sub_cancel_right]
  refine pow_between (n := 30103) (m := 100000) ?_ ?_ (by decide) ?_ ?_ ?_
  · decide +kernel
  · decide +kernel
  · rw [abs_le]
    omega
  · omega
  · omega

theorem topExponent_range {x : Binary64} (h : x.IsValid) :
    -323 ≤ topExponent x ∧ topExponent x ≤ 309 := by
  have hlog := h.log2_le
  have hlow := h.low
  have hhigh := h.high
  unfold topExponent
  rw [Int.fdiv_eq_ediv_of_nonneg _ (by decide)]
  omega

/-! ## What the search finds -/

/-- The numeral of a number: it has at most 18 digits and is half a unit away at most. -/
structure Spells (x : Binary64) (n : Numeral) : Prop where
  pos : 0 < n.digits
  size : n.digits < Nat.pow 10 18
  low : -342 ≤ n.exponent
  high : n.exponent ≤ 309
  around : |(n.digits : ℚ) * 10 ^ n.exponent - x.value| ≤ 2 ^ (x.exponent - 1)

/-- The last grid of the search is fine enough. -/
theorem last_grid {x : Binary64} (h : x.IsValid) :
    (10 : ℚ) ^ (topExponent x - (19 : Nat)) ≤ 2 ^ (x.exponent - 2) := by
  have hlog := h.log2_le
  have hsplit : (10 : ℚ) ^ (topExponent x - (19 : Nat)) =
      10 ^ (topExponent x - 1) * (1 / 10 ^ 18) := by
    have hexponent : topExponent x - (19 : Nat) = topExponent x - 1 - 18 := by
      push_cast
      ring
    rw [hexponent, zpow_sub₀ (by norm_num), zpow_ofNat, div_eq_mul_one_div]
  calc (10 : ℚ) ^ (topExponent x - (19 : Nat))
      = 10 ^ (topExponent x - 1) * (1 / 10 ^ 18) := hsplit
    _ ≤ 2 ^ ((Nat.log2 x.mantissa : Int) + 1 + x.exponent + 1) * (1 / 2 ^ 59) := by
        gcongr
        · exact (topExponent_bounds h).1
        · norm_num
    _ = 2 ^ ((Nat.log2 x.mantissa : Int) + 1 + x.exponent + 1 - 59) := by
        rw [mul_one_div, zpow_sub₀ two_ne_zero, zpow_ofNat]
    _ ≤ 2 ^ (x.exponent - 2) := zpow_le_zpow_right₀ one_le_two (by omega)

/-- The first grid has but a few points below the number. -/
theorem digits_of_top {x : Binary64} {d : Nat} (h : x.IsValid)
    (hle : (d : ℚ) * 10 ^ topExponent x ≤ x.value + 2 ^ (x.exponent - 1)) : d ≤ 3 := by
  have hten : (0 : ℚ) < 10 ^ topExponent x := by positivity
  have hbelow := (topExponent_bounds h).2
  generalize (10 : ℚ) ^ topExponent x = ten at *
  have hvalue : x.value ≤ 2 * ten := by
    have hbits : (x.mantissa : ℚ) ≤ 2 ^ (Nat.log2 x.mantissa + 1) := by
      exact_mod_cast Nat.lt_log2_self.le
    calc x.value ≤ 2 ^ (Nat.log2 x.mantissa + 1) * 2 ^ x.exponent :=
          mul_le_mul_of_nonneg_right hbits (by positivity)
      _ = 2 * 2 ^ ((Nat.log2 x.mantissa : Int) + 1 + x.exponent - 1) := by
          rw [← zpow_natCast, ← zpow_add₀ two_ne_zero, ← zpow_one_add₀ two_ne_zero]
          congr 1
          push_cast
          ring
      _ ≤ 2 * ten := by gcongr
  have hhalf : (2 : ℚ) ^ (x.exponent - 1) ≤ ten :=
    (zpow_le_zpow_right₀ one_le_two (by omega)).trans hbelow
  have hthree : (d : ℚ) ≤ 3 := by
    refine le_of_mul_le_mul_right ?_ hten
    linarith
  exact_mod_cast hthree

/-- If the grid before was too rough, a few more digits than those of the mantissa suffice. -/
theorem digits_of_rough {x : Binary64} {d : Nat} {k : Int}
    (hrough : (2 : ℚ) ^ (x.exponent - 2) < 10 ^ (k + 1))
    (hle : (d : ℚ) * 10 ^ k ≤ x.value + 2 ^ (x.exponent - 1)) : d ≤ 40 * x.mantissa + 20 := by
  have hten : (0 : ℚ) < 10 ^ k := by positivity
  rw [value_quarters, half_quarters] at hle
  rw [zpow_add_one₀ (by norm_num)] at hrough
  generalize (10 : ℚ) ^ k = ten at *
  generalize (2 : ℚ) ^ (x.exponent - 2) = quarter at *
  have hcast : (d : ℚ) ≤ 40 * x.mantissa + 20 := by
    refine le_of_mul_le_mul_right ?_ hten
    calc (d : ℚ) * ten ≤ (4 * x.mantissa + 2) * quarter := by linarith
      _ ≤ (4 * x.mantissa + 2) * (ten * 10) := by gcongr
      _ = (40 * x.mantissa + 20) * ten := by ring
  exact_mod_cast hcast

theorem shortest_spells {x : Binary64} (h : x.IsValid) (hx : 0 < x.mantissa) :
    Spells x (shortest x) := by
  have hlast : ∃ j < 20, ∃ d,
      (gridView x (topExponent x - (j : Nat))).nearest? (x.mantissa % 2 == 0) = some d :=
    ⟨19, by decide, nearest?_isSome hx (last_grid h) _⟩
  obtain ⟨j, hj, d, hsearch, hfound, hbefore⟩ := searchGrid_found hlast
  obtain ⟨hpos, haround⟩ := nearest?_around hx hfound
  have hle : (d : ℚ) * 10 ^ (topExponent x - j) ≤ x.value + 2 ^ (x.exponent - 1) := by
    have hdiff := (abs_le.mp haround).2
    linarith
  have hsize : d ≤ 40 * x.mantissa + 20 := by
    rcases Nat.eq_zero_or_pos j with rfl | hj
    · have htop := digits_of_top h (by simpa using hle)
      omega
    · refine digits_of_rough (not_le.mp fun hfine => ?_) hle
      obtain ⟨d', hd'⟩ := nearest?_isSome hx hfine (x.mantissa % 2 == 0)
      rw [hbefore hj] at hd'
      contradiction
  have hbits := h.bits
  have hrange := topExponent_range h
  rw [shortest, if_neg hx.ne', hsearch]
  refine ⟨hpos, ?_, ?_, ?_, haround⟩
  · simp only [Nat.pow_eq] at hbits ⊢
    omega
  · simp only
    omega
  · simp only
    omega

end CloudGate.Decimal
