import CloudGate.Decimal.Binary64

/-!
The fewest decimal digits that read back as a given binary64 number, and of those the nearest.
-/

namespace CloudGate.Decimal

/-- A decimal numeral `digits · 10 ^ exponent`. -/
structure Numeral where
  digits : Nat
  exponent : Int

/-- A binary64 number on a decimal grid. All four are in one unit: the number, the two ends of the
interval that rounds to it, and the distance of neighbouring grid points. -/
structure GridView where
  value : Nat
  lower : Nat
  upper : Nat
  step : Nat

/-- The view on the grid of multiples of `10 ^ k`. The lower end is nearer when the mantissa is a
power of two, because the numbers below are twice as dense. -/
def gridView (x : Binary64) (k : Int) : GridView :=
  let u := x.exponent - 2
  let pow (base : Nat) (e : Int) : Nat := Nat.pow base e.toNat
  let unit := pow 2 u * pow 10 (-k)
  let below := if x.mantissa = Nat.pow 2 52 ∧ -1074 < x.exponent then 1 else 2
  { value := 4 * x.mantissa * unit
    lower := (4 * x.mantissa - below) * unit
    upper := (4 * x.mantissa + 2) * unit
    step := pow 10 k * pow 2 (-u) }

/-- Whether the grid point `d` reads back. The ends of the interval do so for an even mantissa. -/
def GridView.holds (g : GridView) (ends : Bool) (d : Nat) : Bool :=
  if ends then g.lower ≤ d * g.step && d * g.step ≤ g.upper
  else g.lower < d * g.step && d * g.step < g.upper

/-- The nearest grid point that reads back, a tie going to the even one. -/
def GridView.nearest? (g : GridView) (ends : Bool) : Option Nat :=
  let d := g.value / g.step
  let low := g.holds ends d
  let high := g.holds ends (d + 1)
  if low && high then
    let down := g.value - d * g.step
    let up := (d + 1) * g.step - g.value
    if down < up then some d else if up < down then some (d + 1) else some (d + d % 2)
  else if low then some d
  else if high then some (d + 1)
  else none

/-- Tries ever finer grids, from multiples of `10 ^ k` on. -/
def searchGrid (x : Binary64) : Nat → Int → Numeral
  | 0, k => ⟨(gridView x k).value / (gridView x k).step, k⟩
  | steps + 1, k =>
    match (gridView x k).nearest? (x.mantissa % 2 == 0) with
    | some d => ⟨d, k⟩
    | none => searchGrid x steps (k - 1)

/-- A power of ten above the number: a bit weighs less than 0.30103 decimal digits. -/
def topExponent (x : Binary64) : Int :=
  (((Nat.log2 x.mantissa : Int) + 1 + x.exponent) * 30103).fdiv 100000 + 1

/-- The shortest numeral of the absolute value. Seventeen digits always suffice. -/
def shortest (x : Binary64) : Numeral :=
  if x.mantissa = 0 then ⟨0, 0⟩ else searchGrid x 20 (topExponent x)

end CloudGate.Decimal
