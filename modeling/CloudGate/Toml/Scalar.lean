import CloudGate.Json.Basic
import CloudGate.Text.Split
import CloudGate.Toml.Basic

/-!
Numbers, truth values, dates and times. Each is a word without blanks, but for the blank that may
stand between a date and a time.
-/

namespace CloudGate.Toml

/-! ## Numbers -/

/-- The digits of a numeral, which may have single underscores between them. -/
def ungroup? (isDigit : Char → Bool) (cs : List Char) : Option (List Char) :=
  if (Text.splitBy '_' cs).all fun group => !group.isEmpty && group.all isDigit then
    some (cs.filter (· != '_'))
  else none

/-- The digits of a decimal numeral without superfluous zeros in front. -/
def plainDigits? (cs : List Char) : Option (List Char) := do
  let digits ← ungroup? Char.isDigit cs
  if digits.length = 1 ∨ digits.head? ≠ some '0' then some digits else none

def digitValue (c : Char) : Nat :=
  if c.isDigit then c.toNat - 48 else if c.isLower then c.toNat - 87 else c.toNat - 55

def inBase (base : Nat) (digits : List Char) : Nat :=
  digits.foldl (fun n c => n * base + digitValue c) 0

def dropSign : List Char → Bool × List Char
  | '-' :: rest => (true, rest)
  | '+' :: rest => (false, rest)
  | cs => (false, cs)

/-- A signed decimal integer, or an unsigned one in base 16, 8 or 2, within 64 bits. -/
def int? (word : List Char) : Option Int := do
  let n : Int ←
    match word with
    | '0' :: 'x' :: rest =>
      (ungroup? (fun c => c.isDigit || ('a' ≤ c && c ≤ 'f') || ('A' ≤ c && c ≤ 'F')) rest).map
        fun ds => (inBase 16 ds : Int)
    | '0' :: 'o' :: rest =>
      (ungroup? (fun c => '0' ≤ c && c ≤ '7') rest).map fun ds => (inBase 8 ds : Int)
    | '0' :: 'b' :: rest =>
      (ungroup? (fun c => c == '0' || c == '1') rest).map fun ds => (inBase 2 ds : Int)
    | _ =>
      let (negative, rest) := dropSign word
      (plainDigits? rest).map fun ds => if negative then -(inBase 10 ds : Int) else inBase 10 ds
  if fitsInt64 n then some n else none

/-- A number with a fraction, an exponent or both. One too large is refused, and one too small a
negative number is infinite. -/
def real? (word : List Char) : Option Decimal.Real := do
  let (negative, rest) := dropSign word
  if rest = ['i', 'n', 'f'] then some (.infinite negative)
  else if rest = ['n', 'a', 'n'] then some .undefined
  else do
    let n := Decimal.Real.numeral word
    if n.fraction.isNone && n.exponent.isNone then none
    let whole ← plainDigits? n.whole
    let fraction ← n.fraction.mapM (ungroup? Char.isDigit)
    let exponent ← n.exponent.mapM fun e => do
      let digits ← ungroup? Char.isDigit (dropSign e).2
      some (if (dropSign e).1 then '-' :: digits else digits)
    let x := Decimal.Real.ofNumeral { negative, whole, fraction, exponent }
    if x = .infinite false then none else some x

/-! ## Dates and times -/

/-- A number of exactly two digits. -/
def twoDigits? : List Char → Option (Nat × List Char)
  | a :: b :: rest =>
    if a.isDigit && b.isDigit then some (digitValue a * 10 + digitValue b, rest) else none
  | _ => none

def isLeapYear (year : Nat) : Bool := year % 4 == 0 && (year % 100 != 0 || year % 400 == 0)

def daysInMonth (year month : Nat) : Nat :=
  if month = 2 then (if isLeapYear year then 29 else 28)
  else if [4, 6, 9, 11].contains month then 30
  else 31

/-- The text after a date. -/
def afterDate? (cs : List Char) : Option (List Char) := do
  let (century, rest) ← twoDigits? cs
  let (years, rest) ← twoDigits? rest
  let (month, rest) ← twoDigits? (← Text.afterPrefix? ['-'] rest)
  let (day, rest) ← twoDigits? (← Text.afterPrefix? ['-'] rest)
  if 1 ≤ month && month ≤ 12 && 1 ≤ day && day ≤ daysInMonth (century * 100 + years) month then
    some rest
  else none

/-- The text after a time of day. A second may be the sixtieth. -/
def afterTime? (cs : List Char) : Option (List Char) := do
  let (hour, rest) ← twoDigits? cs
  let (minute, rest) ← twoDigits? (← Text.afterPrefix? [':'] rest)
  let (second, rest) ← twoDigits? (← Text.afterPrefix? [':'] rest)
  if 23 < hour ∨ 59 < minute ∨ 60 < second then none
  match rest with
  | '.' :: more => if more.head?.any Char.isDigit then some (more.dropWhile Char.isDigit) else none
  | _ => some rest

/-- An offset from universal time at the end of a word, or nothing. -/
def isOffset : List Char → Bool
  | [] | ['Z'] | ['z'] => true
  | sign :: rest =>
    (sign == '+' || sign == '-') &&
      match twoDigits? rest with
      | some (hour, ':' :: more) =>
        match twoDigits? more with
        | some (minute, []) => hour ≤ 23 && minute ≤ 59
        | _ => false
      | _ => false

/-- A date, a time of day, or both with an optional offset. -/
def isTime (word : List Char) : Bool :=
  match afterDate? word with
  | some [] => true
  | some (mark :: rest) =>
    (mark == 'T' || mark == 't' || mark == ' ') && (afterTime? rest).any isOffset
  | none => afterTime? word == some []

/-! ## Words -/

def isWordChar (c : Char) : Bool :=
  c.isAlphanum || c == '+' || c == '-' || c == '_' || c == '.' || c == ':'

/-- Takes a word, with the time after a date and a blank. -/
def takeWord (cs : List Char) : List Char × List Char :=
  let word := cs.takeWhile isWordChar
  let rest := cs.dropWhile isWordChar
  match rest with
  | ' ' :: d :: _ =>
    if afterDate? word == some [] && d.isDigit then
      let more := rest.drop 1
      (word ++ ' ' :: more.takeWhile isWordChar, more.dropWhile isWordChar)
    else (word, rest)
  | _ => (word, rest)

def scalar? (word : List Char) : Option Value :=
  if word = "true".toList then some (.bool true)
  else if word = "false".toList then some (.bool false)
  else
    match int? word with
    | some n => some (.int n)
    | none =>
      match real? word with
      | some x => some (.real x)
      | none => if isTime word then some (.time (String.ofList word)) else none

def readScalar : Reader Value := fun cs => do
  let (word, rest) := takeWord cs
  some (← scalar? word, rest)

end CloudGate.Toml
