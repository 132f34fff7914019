/-!
Finite binary64 numbers as sign, mantissa and exponent, in exact arithmetic: rounding of a quotient,
product, quotient, and reading of a decimal numeral.
-/

namespace CloudGate.Decimal

/-- The number `± mantissa · 2 ^ exponent`. The mantissa has 53 bits, or fewer if the exponent is
the least one, -1074. -/
structure Binary64 where
  negative : Bool
  mantissa : Nat
  exponent : Int
  deriving DecidableEq, Repr

/-- `num / den` rounded to a whole number, a half to the even neighbour. -/
def divHalfEven (num den : Nat) : Nat :=
  let q := num / den
  let r := num % den
  if 2 * r < den then q else if den < 2 * r then q + 1 else q + q % 2

namespace Binary64

def zero (negative : Bool) : Binary64 := ⟨negative, 0, -1074⟩

/-- A numerator and denominator of the absolute value. -/
def ratio (x : Binary64) : Nat × Nat :=
  if 0 ≤ x.exponent then (x.mantissa * Nat.pow 2 x.exponent.toNat, 1)
  else (x.mantissa, Nat.pow 2 (-x.exponent).toNat)

/-- `num / den` in units of `2 ^ exponent`, rounded. -/
def scaledTo (num den : Nat) (exponent : Int) : Nat :=
  if 0 ≤ exponent then divHalfEven num (den * Nat.pow 2 exponent.toNat)
  else divHalfEven (num * Nat.pow 2 (-exponent).toNat) den

/-- The exponent that leaves `num / den` between 2^52 and 2^53, but at least -1074. -/
def exponentFor (num den : Nat) : Int :=
  let e : Int := (Nat.log2 num : Int) - Nat.log2 den - 53
  let reaches : Bool :=
    if 0 ≤ e then den * Nat.pow 2 (53 + e.toNat) ≤ num
    else den * Nat.pow 2 53 ≤ num * Nat.pow 2 (-e).toNat
  max (if reaches then e + 1 else e) (-1074)

/-- The number nearest to `num / den`, unless that is beyond the largest one. -/
def ofRatio? (negative : Bool) (num den : Nat) : Option Binary64 :=
  if num = 0 then some (zero negative)
  else
    let e := exponentFor num den
    let m := scaledTo num den e
    let x : Binary64 :=
      if m = Nat.pow 2 53 then ⟨negative, Nat.pow 2 52, e + 1⟩ else ⟨negative, m, e⟩
    if x.exponent ≤ 971 then some x else none

def mul? (x y : Binary64) : Option Binary64 :=
  let a := x.ratio
  let b := y.ratio
  ofRatio? (x.negative != y.negative) (a.1 * b.1) (a.2 * b.2)

def div? (x y : Binary64) : Option Binary64 :=
  let a := x.ratio
  let b := y.ratio
  ofRatio? (x.negative != y.negative) (a.1 * b.2) (a.2 * b.1)

def ofNat? (n : Nat) : Option Binary64 := ofRatio? false n 1

/-- Divides by `10 ^ 308` until `10 ^ exponent` is within reach. Four divisions turn every
significand of a numeral to zero. -/
def shrink : Nat → Binary64 → Int → Option (Binary64 × Int)
  | 0, x, _ => some (zero x.negative, 0)
  | steps + 1, x, exponent =>
    if -308 ≤ exponent then some (x, exponent)
    else do
      let p ← ofNat? (Nat.pow 10 308)
      let y ← div? x p
      shrink steps y (exponent + 308)

/-- Reads `significand · 10 ^ exponent` in two roundings: the significand is rounded first, and then
multiplied or divided by the number nearest to the power of ten. -/
def ofScaled? (negative : Bool) (significand : Nat) (exponent : Int) : Option Binary64 := do
  let x ← ofRatio? negative significand 1
  if x.mantissa = 0 then some x
  else if 308 < exponent then none
  else if 0 ≤ exponent then mul? x (← ofNat? (Nat.pow 10 exponent.toNat))
  else do
    let (y, e) ← shrink 4 x exponent
    div? y (← ofNat? (Nat.pow 10 (-e).toNat))

/-- Reads `significand · 10 ^ exponent` in one rounding. -/
def ofDecimal? (negative : Bool) (significand : Nat) (exponent : Int) : Option Binary64 :=
  if 0 ≤ exponent then ofRatio? negative (significand * Nat.pow 10 exponent.toNat) 1
  else ofRatio? negative significand (Nat.pow 10 (-exponent).toNat)

end Binary64

end CloudGate.Decimal
