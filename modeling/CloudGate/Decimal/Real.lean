import CloudGate.Decimal.Text

/-!
Binary64 numbers with the infinities and the undefined number, as settings may hold them, and the
reading of numerals with a point or an exponent.
-/

namespace CloudGate.Decimal

inductive Real
  | finite (x : Binary64)
  | infinite (negative : Bool)
  | undefined
  deriving DecidableEq, Repr

namespace Real

/-- The plain form, without an exponent and without a fraction for whole numbers. -/
def render : Real → String
  | .finite x => x.renderPositional false
  | .infinite negative => if negative then "-inf" else "inf"
  | .undefined => "NaN"

/-- The number nearest to `digits · 10 ^ exponent`. Exponents far out of range are settled before
any power is computed. -/
def ofDigits (negative : Bool) (digits : List Char) (exponent : Int) : Real :=
  let significant := digits.dropWhile (· == '0')
  let size : Int := significant.length + exponent
  if significant.isEmpty ∨ size < -400 then .finite (.zero negative)
  else if 400 < size then .infinite negative
  else
    let n := significant.foldl (fun n c => n * 10 + (c.toNat - 48)) 0
    match Binary64.ofDecimal? negative n exponent with
    | some x => .finite x
    | none => .infinite negative

/-- The value of a signed decimal numeral. -/
def signedValue (cs : List Char) : Int :=
  let value (digits : List Char) : Nat := digits.foldl (fun n c => n * 10 + (c.toNat - 48)) 0
  match cs with
  | '-' :: rest => -(value rest : Int)
  | '+' :: rest => value rest
  | _ => value cs

/-- Takes sign, whole digits, fraction digits and exponent of a numeral apart. A missing part is
empty; without a point there is no fraction, without a letter no exponent. -/
structure Numeral where
  negative : Bool
  whole : List Char
  fraction : Option (List Char)
  exponent : Option (List Char)

def numeral (cs : List Char) : Numeral :=
  let (negative, cs) :=
    match cs with
    | '-' :: rest => (true, rest)
    | '+' :: rest => (false, rest)
    | _ => (false, cs)
  let isExponentMark (c : Char) : Bool := c == 'e' || c == 'E'
  let front := cs.takeWhile fun c => !isExponentMark c
  { negative
    whole := front.takeWhile (· != '.')
    fraction := if front.contains '.' then some ((front.dropWhile (· != '.')).drop 1) else none
    exponent := if cs.any isExponentMark then some (cs.drop (front.length + 1)) else none }

/-- The number that a numeral denotes. -/
def ofNumeral (n : Numeral) : Real :=
  let fraction := n.fraction.getD []
  ofDigits n.negative (n.whole ++ fraction)
    (signedValue (n.exponent.getD []) - fraction.length)

/-- Whether an exponent has digits after an optional sign, and nothing else. -/
def isExponent (cs : List Char) : Bool :=
  let digits :=
    match cs with
    | '-' :: rest | '+' :: rest => rest
    | _ => cs
  !digits.isEmpty && digits.all Char.isDigit

end Real

end CloudGate.Decimal
