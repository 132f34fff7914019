import CloudGate.Decimal.Shortest

/-!
The written forms of a binary64 number: in data, with an exponent when the number is very large or
small, and in prose, always positional.
-/

namespace CloudGate.Decimal

def zeros (n : Nat) : List Char := List.replicate n '0'

/-- Writes `0.digits · 10 ^ point` without an exponent. A whole number ends in `.0` if asked. -/
def positional (digits : List Char) (point : Int) (fraction : Bool) : List Char :=
  if point ≤ 0 then ['0', '.'] ++ zeros (-point).toNat ++ digits
  else
    let whole := point.toNat
    if digits.length ≤ whole then
      digits ++ zeros (whole - digits.length) ++ (if fraction then ['.', '0'] else [])
    else digits.take whole ++ '.' :: digits.drop whole

/-- Writes `d.ddd · 10 ^ power` with a signed exponent. -/
def scientific (digits : List Char) (power : Int) : List Char :=
  let tail := digits.drop 1
  digits.take 1 ++ (if tail.isEmpty then [] else '.' :: tail) ++
    ['e', if power < 0 then '-' else '+'] ++ Nat.toDigits 10 power.natAbs

def signed (negative : Bool) (cs : List Char) : String :=
  String.ofList (if negative then '-' :: cs else cs)

namespace Binary64

/-- The form in data: positional for decimal exponents from -5 to 15, and then always with a
fraction. -/
def render (x : Binary64) : String :=
  if x.mantissa = 0 then signed x.negative ['0', '.', '0']
  else
    let n := shortest x
    let digits := Nat.toDigits 10 n.digits
    let point := n.exponent + digits.length
    signed x.negative <|
      if -5 ≤ point - 1 ∧ point - 1 ≤ 15 then positional digits point true
      else scientific digits (point - 1)

/-- The form in prose: positional, with a fraction for whole numbers if asked. -/
def renderPositional (x : Binary64) (fraction : Bool) : String :=
  if x.mantissa = 0 then signed x.negative (if fraction then ['0', '.', '0'] else ['0'])
  else
    let n := shortest x
    let digits := Nat.toDigits 10 n.digits
    signed x.negative (positional digits (n.exponent + digits.length) fraction)

end Binary64

end CloudGate.Decimal
