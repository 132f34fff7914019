/-!
Punycode: labels of domain names with characters beyond ASCII, written in ASCII. The ASCII
characters come first, and after a hyphen follow, in base 36, the places where the others are put
in.
-/

namespace CloudGate.Net.Punycode

/-- Divides a distance until it is small, and counts 36 for every division. -/
def settle : Nat → Nat → Nat → Nat
  | 0, delta, k => k + 36 * delta / (delta + 38)
  | steps + 1, delta, k =>
    if 455 < delta then settle steps (delta / 35) (k + 36) else k + 36 * delta / (delta + 38)

/-- The bias for the next numeral, after a numeral `delta` that made `count` characters. -/
def adapt (delta count : Nat) (first : Bool) : Nat :=
  let delta := if first then delta / 700 else delta / 2
  settle 32 (delta + delta / count) 0

/-- Digits below the threshold at position `k` end a numeral. -/
def threshold (k bias : Nat) : Nat := if k ≤ bias then 1 else if bias + 26 ≤ k then 26 else k - bias

/-- Digits are `a` to `z` and then `0` to `9`. -/
def digit (n : Nat) : Char := if n < 26 then Char.ofNat (97 + n) else Char.ofNat (22 + n)

def digitValue? (c : Char) : Option Nat :=
  if c.isLower then some (c.toNat - 97)
  else if c.isUpper then some (c.toNat - 65)
  else if c.isDigit then some (c.toNat - 22)
  else none

/-- Writes a numeral with the thresholds of the bias. -/
def encodeNumber (bias : Nat) : Nat → Nat → Nat → List Char
  | 0, _, _ => []
  | steps + 1, k, n =>
    let t := threshold k bias
    if n < t then [digit n]
    else digit (t + (n - t) % (36 - t)) :: encodeNumber bias steps (k + 36) ((n - t) / (36 - t))

/-- The state of encoding: numeral so far, bias, characters written, and the text. -/
structure Encoder where
  delta : Nat
  bias : Nat
  written : Nat
  output : List Char

/-- Passes one character of the label while `point` is written. -/
def Encoder.pass (basic point : Nat) (e : Encoder) (c : Char) : Encoder :=
  if c.toNat < point then { e with delta := e.delta + 1 }
  else if c.toNat = point then
    { delta := 0
      bias := adapt e.delta (e.written + 1) (e.written == basic)
      written := e.written + 1
      output := e.output ++ encodeNumber e.bias 32 36 e.delta }
  else e

/-- Writes the code points from the smallest on. -/
def encodePoints (label : List Char) (basic : Nat) :
    Nat → Nat → Encoder → List Char
  | 0, _, e => e.output
  | steps + 1, point, e =>
    let larger := (label.map Char.toNat).filter (point ≤ ·)
    match larger.min? with
    | none => e.output
    | some next =>
      let e := { e with delta := e.delta + (next - point) * (e.written + 1) }
      let e := label.foldl (Encoder.pass basic next) e
      encodePoints label basic steps (next + 1) { e with delta := e.delta + 1 }

def encode (label : List Char) : List Char :=
  let basic := label.filter fun c => c.toNat < 128
  encodePoints label basic.length label.length 128
    { delta := 0, bias := 72, written := basic.length
      output := if basic.isEmpty then [] else basic ++ ['-'] }

/-- Reads a numeral: its value, and the rest of the text. -/
def decodeNumber? (bias : Nat) : List Char → Nat → Nat → Nat → Option (Nat × List Char)
  | [], _, _, _ => none
  | c :: rest, k, weight, value => do
    let d ← digitValue? c
    let t := threshold k bias
    let value := value + d * weight
    if d < t then some (value, rest)
    else decodeNumber? bias rest (k + 36) (weight * (36 - t)) value

/-- Puts the characters of the numerals into the label. -/
def decodePoints? : Nat → List Char → Nat → Nat → Nat → List Char → Option (List Char)
  | _, [], _, _, _, label => some label
  | 0, _ :: _, _, _, _, _ => none
  | steps + 1, cs, point, index, bias, label => do
    let (delta, rest) ← decodeNumber? bias cs 36 1 0
    let count := label.length + 1
    let point := point + (index + delta) / count
    let place := (index + delta) % count
    if 0x10FFFF < point ∨ (0xD800 ≤ point ∧ point ≤ 0xDFFF) then none
    else
      decodePoints? steps rest point (place + 1) (adapt delta count (index == 0))
        (label.take place ++ Char.ofNat point :: label.drop place)

/-- The label that a text stands for. -/
def decode? (text : List Char) : Option (List Char) :=
  let tail := (text.reverse.takeWhile (· != '-')).reverse
  let basic := text.take (text.length - tail.length - 1)
  decodePoints? tail.length tail 128 0 72 basic

end CloudGate.Net.Punycode
