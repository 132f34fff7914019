import CloudGate.Proofs.Decimal.Reading
import CloudGate.Proofs.Json.Numeral

/-!
Numbers with a fraction or an exponent, read from what is written for them.

* `readNumber_point`, `readScale_exponent`: the parts of a numeral give its significand and its
  exponent.
* `readNumber_small`, `readNumber_mixed`, `readNumber_padded`, `readNumber_scientific`: each written
  form is read as the shortest numeral of the number, an integer with zeros behind it.
* `parse_real`: every number is read as one close to it.
-/

namespace CloudGate.Json

open Decimal (Binary64 Close shortest positional scientific zeros signed)

/-! ## Digits -/

theorem valueFrom_valueOf (front back : List Char) :
    valueFrom (valueOf front) back = valueOf (front ++ back) :=
  List.foldl_append.symm

theorem valueOf_zeros (n : Nat) (digits : List Char) :
    valueOf (zeros n ++ digits) = valueOf digits := by
  induction n with
  | zero => rfl
  | succ n ih => exact ih

theorem valueFrom_zeros (n m : Nat) : valueFrom m (zeros n) = m * Nat.pow 10 n := by
  induction n generalizing m with
  | zero => exact (Nat.mul_one m).symm
  | succ n ih =>
    calc valueFrom m (zeros (n + 1)) = valueFrom (m * 10 + 0) (zeros n) := rfl
      _ = m * 10 * Nat.pow 10 n := ih (m * 10)
      _ = m * Nat.pow 10 (n + 1) := by
        rw [Nat.pow_eq, Nat.pow_eq, Nat.pow_succ, Nat.mul_assoc, Nat.mul_comm 10]

theorem zeros_digits (n : Nat) : ∀ c ∈ zeros n, isDigit c = true := by
  intro c hc
  obtain rfl := List.eq_of_mem_replicate hc
  rfl

/-! ## Parts of a numeral -/

theorem takeExponent_digits {digits : List Char} (hdigits : ∀ c ∈ digits, isDigit c = true)
    (value : Nat) (hfits : valueFrom value digits ≤ 2147483647) :
    takeExponent value digits = (valueFrom value digits, []) := by
  induction digits generalizing value with
  | nil => rfl
  | cons c rest ih =>
    obtain ⟨hc, hrest⟩ := List.forall_mem_cons.mp hdigits
    have hnext : value * 10 + digitValue c ≤ 2147483647 :=
      Nat.le_trans (le_valueFrom rest _) hfits
    simp only [takeExponent, hc, hnext, decide_true, Bool.and_self, ↓reduceIte]
    exact ih hrest _ hfits

section Parts

variable (negative : Bool) (significand : Nat) (exponent : Int)

/-- A signed exponent at the end. -/
theorem readScale_exponent {power : Int} (h : power.natAbs ≤ 2147483647) :
    readScale negative significand exponent
      ('e' :: (if power < 0 then '-' else '+') :: Nat.toDigits 10 power.natAbs) =
        realOf negative significand (exponent + power) [] := by
  have hvalue : valueFrom 0 (Nat.toDigits 10 power.natAbs) = power.natAbs := valueOf_toDigits _
  have htake := takeExponent_digits (fun c hc => isDigit_of_mem_digits hc) 0
    (by rw [hvalue]; exact h)
  rw [hvalue] at htake
  have hread : ∀ up : Bool, readPower up negative significand exponent
      (Nat.toDigits 10 power.natAbs) =
        realOf negative significand
          (if up then exponent + power.natAbs else exponent - power.natAbs) [] := by
    intro up
    cases hcs : Nat.toDigits 10 power.natAbs with
    | nil => exact absurd hcs Nat.toDigits_ne_nil
    | cons c rest =>
      have hc : isDigit c = true := isDigit_of_mem_digits (hcs ▸ List.mem_cons_self ..)
      rw [hcs] at htake
      simp only [readPower, hc, ↓reduceIte, htake]
      rfl
  split
  · rename_i hneg
    have hpower : exponent - power.natAbs = exponent + power := by omega
    have hminus := hread false
    simp only [Bool.false_eq_true, ↓reduceIte, hpower] at hminus
    exact hminus
  · rename_i hpos
    have hpower : exponent + power.natAbs = exponent + power := by omega
    have hplus := hread true
    simp only [↓reduceIte, hpower] at hplus
    exact hplus

/-- Digits behind the point. -/
theorem readFraction_digits {fraction behind : List Char} (hne : fraction ≠ [])
    (hdigits : ∀ c ∈ fraction, isDigit c = true) (hbehind : startsWithDigit behind = false)
    (hfits : (valueFrom significand fraction : Int) ≤ maxUInt64) :
    readFraction negative significand exponent (fraction ++ behind) =
      readScale negative (valueFrom significand fraction) (exponent - fraction.length) behind := by
  have htake := takeDigits_digits hdigits hbehind significand 0 hfits
  have hcount : fraction.length ≠ 0 := fun h => hne (List.eq_nil_of_length_eq_zero h)
  unfold readFraction
  rw [Nat.zero_add] at htake
  simp only [htake, hbehind, Bool.false_eq_true, ↓reduceIte, hcount]

end Parts

/-- A number with a point: its digits are the significand, those behind the point are counted. -/
theorem readNumber_point {whole fraction behind : List Char} (hwhole : IsWhole whole)
    (hne : fraction ≠ []) (hdigits : ∀ c ∈ fraction, isDigit c = true)
    (hbehind : startsWithDigit behind = false)
    (hfits : (valueOf (whole ++ fraction) : Int) ≤ maxUInt64) (negative : Bool) :
    readNumber negative (whole ++ '.' :: (fraction ++ behind)) =
      readScale negative (valueOf (whole ++ fraction)) (-fraction.length) behind := by
  rw [← valueFrom_valueOf] at hfits ⊢
  have hwholefits : (valueOf whole : Int) ≤ maxUInt64 :=
    Int.le_trans (Int.ofNat_le.mpr (le_valueFrom fraction _)) hfits
  rw [readNumber_whole hwhole rfl hwholefits]
  show readFraction negative (valueOf whole) 0 (fraction ++ behind) = _
  rw [readFraction_digits negative _ _ hne hdigits hbehind hfits, Int.zero_sub]

/-! ## Written forms -/

section Forms

variable {c : Char} {rest : List Char} (hdigits : ∀ d ∈ c :: rest, isDigit d = true)
  (hzero : c ≠ '0') (hfits : (valueOf (c :: rest) : Int) ≤ maxUInt64) (negative : Bool)
include hdigits hfits

/-- A number below one. -/
theorem readNumber_small {point : Int} (h : point ≤ 0) :
    readNumber negative (positional (c :: rest) point true) =
      realOf negative (valueOf (c :: rest)) (point - (c :: rest).length) [] := by
  have hvalue : valueOf (['0'] ++ (zeros (-point).toNat ++ c :: rest)) = valueOf (c :: rest) :=
    valueOf_zeros ((-point).toNat + 1) _
  have hfraction : ∀ d ∈ zeros (-point).toNat ++ c :: rest, isDigit d = true :=
    List.forall_mem_append.mpr ⟨zeros_digits _, hdigits⟩
  have hend : startsWithDigit [] = false := rfl
  have hread := readNumber_point .zero (by simp) hfraction hend (by rw [hvalue]; exact hfits)
    negative
  have hcount : -((zeros (-point).toNat ++ c :: rest).length : Int) =
      point - (c :: rest).length := by
    have hlength : (zeros (-point).toNat).length = (-point).toNat := List.length_replicate
    rw [List.length_append, hlength]
    omega
  rw [hvalue, hcount, List.append_nil] at hread
  rw [positional, if_pos h, List.append_assoc]
  exact hread

include hzero

/-- A number with digits in front of the point and behind it. -/
theorem readNumber_mixed {point : Int} (hpos : 0 < point) (h : point < (c :: rest).length) :
    readNumber negative (positional (c :: rest) point true) =
      realOf negative (valueOf (c :: rest)) (point - (c :: rest).length) [] := by
  obtain ⟨n, hn⟩ : ∃ n, point.toNat = n + 1 := ⟨point.toNat - 1, by omega⟩
  have hwhole : IsWhole ((c :: rest).take (n + 1)) :=
    .digits (fun d hd => hdigits d ((List.take_sublist (n + 1) (c :: rest)).subset hd)) hzero
  have hne : (c :: rest).drop (n + 1) ≠ [] := by
    intro hnil
    have hlength := List.drop_eq_nil_iff.mp hnil
    omega
  have hfraction : ∀ d ∈ (c :: rest).drop (n + 1), isDigit d = true :=
    fun d hd => hdigits d (List.mem_of_mem_drop hd)
  have hend : startsWithDigit [] = false := rfl
  have hread := readNumber_point hwhole hne hfraction hend
    (by rw [List.take_append_drop]; exact hfits) negative
  have hcount : -(((c :: rest).drop (n + 1)).length : Int) = point - (c :: rest).length := by
    rw [List.length_drop]
    omega
  rw [List.take_append_drop, hcount, List.append_nil] at hread
  rw [positional, if_neg (by omega)]
  simp only [hn]
  rw [if_neg (by omega)]
  exact hread

omit hfits in
/-- An integer, filled up with zeros. -/
theorem readNumber_padded {point : Int} {n : Nat} (h : point = (c :: rest).length + n)
    (hpadded : ((valueOf (c :: rest) * Nat.pow 10 n * 10 : Nat) : Int) ≤ maxUInt64) :
    readNumber negative (positional (c :: rest) point true) =
      realOf negative (valueOf (c :: rest) * Nat.pow 10 n * 10) (-1) [] := by
  have hwhole : IsWhole (c :: rest ++ zeros n) :=
    .digits (List.forall_mem_append.mpr ⟨hdigits, zeros_digits n⟩) hzero
  have hvalue : valueOf (c :: rest ++ zeros n ++ ['0']) =
      valueOf (c :: rest) * Nat.pow 10 n * 10 := by
    rw [← valueFrom_valueOf, ← valueFrom_valueOf, valueFrom_zeros]
    rfl
  have hend : startsWithDigit [] = false := rfl
  have hfraction : ∀ d ∈ ['0'], isDigit d = true := List.forall_mem_singleton.mpr rfl
  have hread := readNumber_point hwhole (List.cons_ne_nil '0' []) hfraction hend
    (by rw [hvalue]; exact hpadded) negative
  rw [hvalue] at hread
  have hcount : point.toNat - (c :: rest).length = n := by omega
  rw [positional, if_neg (by simp only [List.length_cons] at h; omega)]
  simp only
  rw [if_pos (by omega), hcount, if_pos trivial]
  exact hread

theorem readNumber_scientific {power : Int} (h : power.natAbs ≤ 2147483647) :
    readNumber negative (scientific (c :: rest) power) =
      realOf negative (valueOf (c :: rest)) (power - rest.length) [] := by
  have hdigit : isDigit c = true := hdigits c (List.mem_cons_self ..)
  have hrest : ∀ d ∈ rest, isDigit d = true := fun d hd => hdigits d (List.mem_cons_of_mem _ hd)
  have hbehind : startsWithDigit
      ('e' :: (if power < 0 then '-' else '+') :: Nat.toDigits 10 power.natAbs) = false := rfl
  have hwhole : IsWhole [c] := .digits (List.forall_mem_singleton.mpr hdigit) hzero
  cases rest with
  | nil =>
    have hread := readNumber_whole hwhole hbehind hfits negative
    have hexponent := readScale_exponent negative (valueOf [c]) 0 h
    rw [Int.zero_add] at hexponent
    rw [List.length_nil, Int.natCast_zero, Int.sub_zero]
    exact hread.trans hexponent
  | cons d more =>
    have hread := readNumber_point hwhole (List.cons_ne_nil d more) hrest hbehind hfits negative
    have hexponent := readScale_exponent negative (valueOf (c :: d :: more))
      (-(d :: more).length) h
    rw [Int.add_comm] at hexponent
    have htext : scientific (c :: d :: more) power = [c] ++ '.' :: (d :: more ++ 'e' ::
        (if power < 0 then '-' else '+') :: Nat.toDigits 10 power.natAbs) := by
      simp [scientific]
    rw [htext]
    exact hread.trans hexponent

end Forms

/-! ## Numbers -/

theorem realOf_some {negative : Bool} {significand : Nat} {exponent : Int} {y : Binary64}
    (h : Binary64.ofScaled? negative significand exponent = some y) :
    realOf negative significand exponent [] = .ok (.real y, []) := by
  rw [realOf, h]

/-- The digits of the shortest numeral. -/
theorem shortest_digits {x : Binary64} (h : x.IsValid) (hx : 0 < x.mantissa) :
    ∃ c rest, Nat.toDigits 10 (shortest x).digits = c :: rest ∧
      (∀ d ∈ c :: rest, isDigit d = true) ∧ c ≠ '0' ∧
      valueOf (c :: rest) = (shortest x).digits ∧ (valueOf (c :: rest) : Int) ≤ maxUInt64 ∧
      (c :: rest).length ≤ 18 := by
  have hspells := Decimal.shortest_spells h hx
  have hsize := hspells.size
  cases hcs : Nat.toDigits 10 (shortest x).digits with
  | nil => exact absurd hcs Nat.toDigits_ne_nil
  | cons c rest =>
    have hvalue : valueOf (c :: rest) = (shortest x).digits := hcs ▸ valueOf_toDigits _
    refine ⟨c, rest, rfl, fun d hd => isDigit_of_mem_digits (hcs ▸ hd),
      toDigits_head_ne_zero hspells.pos hcs, hvalue, ?_, ?_⟩
    · rw [hvalue]
      simp only [Nat.pow_eq] at hsize
      unfold maxUInt64
      omega
    · rw [← hcs]
      exact (Nat.length_toDigits_le_iff (by decide) (by decide)).mpr hsize

/-- A number other than zero, without its sign. -/
theorem readNumber_written {x : Binary64} (h : x.IsValid) (hx : 0 < x.mantissa) :
    ∃ cs y, x.render = signed x.negative cs ∧
      readNumber x.negative cs = .ok (.real y, []) ∧ Close x y := by
  obtain ⟨c, rest, hcs, hdigits, hzero, hvalue, hfits, hlength⟩ := shortest_digits h hx
  have hspells := Decimal.shortest_spells h hx
  obtain ⟨y, hy, hclose⟩ := Decimal.shortest_close h hx
  unfold Binary64.render
  rw [if_neg hx.ne']
  simp only [hcs]
  generalize hpoint : (shortest x).exponent + ((c :: rest).length : Int) = point
  by_cases hform : -5 ≤ point - 1 ∧ point - 1 ≤ 15
  · rw [if_pos hform]
    by_cases hshort : point < (c :: rest).length
    · have hread : readNumber x.negative (positional (c :: rest) point true) =
          realOf x.negative (valueOf (c :: rest)) (point - (c :: rest).length) [] := by
        rcases Int.lt_or_le 0 point with hpos | hneg
        · exact readNumber_mixed hdigits hzero hfits x.negative hpos hshort
        · exact readNumber_small hdigits hfits x.negative hneg
      have hexponent : point - (c :: rest).length = (shortest x).exponent := by omega
      rw [hvalue, hexponent] at hread
      exact ⟨_, y, rfl, hread.trans (realOf_some hy), hclose⟩
    · obtain ⟨n, hn⟩ := Int.eq_ofNat_of_zero_le (a := (shortest x).exponent) (by omega)
      have hpadded : (shortest x).digits * Nat.pow 10 n < Nat.pow 10 18 := by
        have hlt : (shortest x).digits < Nat.pow 10 (c :: rest).length := by
          rw [← hcs]
          exact (Nat.length_toDigits_le_iff (by decide) Nat.length_toDigits_pos).mp le_rfl
        calc (shortest x).digits * Nat.pow 10 n
            < Nat.pow 10 (c :: rest).length * Nat.pow 10 n :=
              Nat.mul_lt_mul_of_pos_right hlt (Nat.pow_pos (by decide))
          _ = Nat.pow 10 ((c :: rest).length + n) := (Nat.pow_add 10 _ _).symm
          _ ≤ Nat.pow 10 18 := Nat.pow_le_pow_right (by decide) (by omega)
      have hpaddedfits : ((valueOf (c :: rest) * Nat.pow 10 n * 10 : Nat) : Int) ≤ maxUInt64 := by
        rw [hvalue]
        generalize (shortest x).digits * Nat.pow 10 n = padded at hpadded
        simp only [Nat.pow_eq] at hpadded
        unfold maxUInt64
        omega
      obtain ⟨y, hy, hclose⟩ := Decimal.padded_close h hx hn hpadded
      have hlong : point = (c :: rest).length + n := by omega
      have hread := readNumber_padded hdigits hzero x.negative hlong hpaddedfits
      rw [hvalue] at hread
      exact ⟨_, y, rfl, hread.trans (realOf_some hy), hclose⟩
  · rw [if_neg hform]
    have hlow := hspells.low
    have hhigh := hspells.high
    have hpower : (point - 1).natAbs ≤ 2147483647 := by omega
    have hread := readNumber_scientific hdigits hzero hfits x.negative hpower
    have hexponent : point - 1 - rest.length = (shortest x).exponent := by
      rw [List.length_cons] at hpoint
      omega
    rw [hvalue, hexponent] at hread
    exact ⟨_, y, rfl, hread.trans (realOf_some hy), hclose⟩

/-- A number that is read starts with a digit. -/
theorem digit_of_readNumber {negative : Bool} {cs rest : List Char} {n : Number}
    (h : readNumber negative cs = .ok (n, rest)) : ∃ c more, cs = c :: more ∧ isDigit c = true := by
  unfold readNumber at h
  split at h
  · contradiction
  · rename_i more
    exact ⟨'0', more, rfl, rfl⟩
  · rename_i c more _
    split at h
    · rename_i hdigit
      exact ⟨c, more, rfl, hdigit⟩
    · contradiction

theorem parse_signed {negative : Bool} {cs : List Char} {n : Number}
    (h : readNumber negative cs = .ok (n, [])) : parse (signed negative cs) = .ok (.num n) := by
  have hread : readValue maxDepth (signed negative cs).toList = .ok (.num n, []) := by
    rw [signed, String.toList_ofList]
    cases negative with
    | true =>
      rw [if_pos rfl, readValue_minus, h]
      rfl
    | false =>
      obtain ⟨c, more, rfl, hdigit⟩ := digit_of_readNumber h
      rw [if_neg Bool.false_ne_true, readValue_digit hdigit, h]
      rfl
  unfold parse readAll
  rw [hread]
  rfl

/-- Every number is read as one close to it. -/
theorem parse_real {x : Binary64} (h : x.IsValid) :
    ∃ y, parse (Number.real x).render = .ok (.num (.real y)) ∧ Close x y := by
  rcases Nat.eq_zero_or_pos x.mantissa with hx | hx
  · have hleast : x.exponent = -1074 := h.normal.resolve_left (by rw [hx]; decide)
    have hzero : x = .zero x.negative := by
      obtain ⟨negative, mantissa, exponent⟩ := x
      simp only at hx hleast
      rw [hx, hleast]
      rfl
    have hread : ∀ negative, readNumber negative ['0', '.', '0'] =
        .ok (.real (.zero negative), []) := by
      intro negative
      cases negative with
      | true => rfl
      | false => rfl
    refine ⟨x, ?_, .refl x⟩
    show parse x.render = _
    rw [Binary64.render, if_pos hx, parse_signed (hread x.negative), ← hzero]
  · obtain ⟨cs, y, hrender, hread, hclose⟩ := readNumber_written h hx
    refine ⟨y, ?_, hclose⟩
    show parse x.render = _
    rw [hrender, parse_signed hread]

end CloudGate.Json
