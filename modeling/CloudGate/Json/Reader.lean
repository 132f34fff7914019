import CloudGate.Json.Basic
import CloudGate.Json.Fault

/-!
Reading JSON text. A reader takes a value off the front of the text and returns the rest; a fault
tells the place by the bytes that were left. Containers may be nested 127 deep.
-/

namespace CloudGate.Json

/-- A reader of values at the front of a text. -/
abbrev Reader (α : Type) := List Char → Except Fault (α × List Char)

/-- Fails at the current place. -/
def failAt {α : Type} (rest : List Char) (cause : Cause) : Except Fault α :=
  .error ⟨cause, byteCount rest⟩

/-- Fails at the byte after the current place, if there is one. -/
def failAfter {α : Type} (rest : List Char) (cause : Cause) : Except Fault α :=
  .error ⟨cause, byteCount rest - 1⟩

def isSpace (c : Char) : Bool := c == ' ' || c == '\n' || c == '\t' || c == '\r'

def skipSpace (cs : List Char) : List Char := cs.dropWhile isSpace

/-- Takes the letters of a word one by one. -/
def readWord : List Char → List Char → Except Fault (List Char)
  | [], cs => .ok cs
  | _ :: _, [] => failAt [] .endOfValue
  | w :: word, c :: rest =>
    if c = w then readWord word rest else failAfter (c :: rest) .expectedWord

/-! ## Strings -/

def hexValue? (c : Char) : Option Nat :=
  if '0' ≤ c ∧ c ≤ '9' then some (c.toNat - 48)
  else if 'a' ≤ c ∧ c ≤ 'f' then some (c.toNat - 87)
  else if 'A' ≤ c ∧ c ≤ 'F' then some (c.toNat - 55)
  else none

/-- The four hexadecimal digits of an escape. Fewer than four bytes are an unfinished string. -/
def readHex (cs : List Char) : Except Fault (Nat × List Char) :=
  if byteCount cs < 4 then failAt [] .endOfString
  else
    match cs with
    | a :: b :: c :: d :: rest =>
      match hexValue? a, hexValue? b, hexValue? c, hexValue? d with
      | some a', some b', some c', some d' => .ok (((a' * 16 + b') * 16 + c') * 16 + d', rest)
      | _, _, _, _ => .error ⟨.invalidEscape, byteCount cs - 4⟩
    | _ => .error ⟨.invalidEscape, byteCount cs - 4⟩

/-- The escape that must follow a leading surrogate. -/
def readTrailing (lead : Nat) (cs : List Char) : Except Fault (Char × List Char) :=
  match cs with
  | [] => failAt [] .endOfString
  | '\\' :: rest =>
    match rest with
    | [] => failAt [] .endOfString
    | 'u' :: more => do
      let (n, rest) ← readHex more
      if n < 0xDC00 ∨ 0xDFFF < n then failAt rest .loneSurrogate
      else .ok (Char.ofNat ((lead - 0xD800) * 0x400 + (n - 0xDC00) + 0x10000), rest)
    | _ => failAfter rest .unfinishedSurrogate
  | _ => failAfter cs .unfinishedSurrogate

/-- The character of an escape that starts with `\u`. -/
def readUnicodeEscape (cs : List Char) : Except Fault (Char × List Char) := do
  let (n, rest) ← readHex cs
  if 0xDC00 ≤ n ∧ n ≤ 0xDFFF then failAt rest .loneSurrogate
  else if n < 0xD800 ∨ 0xDBFF < n then .ok (Char.ofNat n, rest)
  else readTrailing n rest

/-- The character of a one-letter escape. -/
def simpleEscape? (c : Char) : Option Char :=
  if c = '"' ∨ c = '\\' ∨ c = '/' then some c
  else if c = 'b' then some '\x08'
  else if c = 'f' then some '\x0c'
  else if c = 'n' then some '\n'
  else if c = 'r' then some '\r'
  else if c = 't' then some '\t'
  else none

/-- The character of an escape, after its backslash. -/
def readEscape (cs : List Char) : Except Fault (Char × List Char) :=
  match cs with
  | [] => failAt [] .endOfString
  | 'u' :: rest => readUnicodeEscape rest
  | c :: rest =>
    match simpleEscape? c with
    | some r => .ok (r, rest)
    | none => failAfter cs .invalidEscape

/-- The characters of a string after its opening quote. A step takes at least one character, so the
length of the text bounds the steps. -/
def readChars : Nat → List Char → List Char → Except Fault (List Char × List Char)
  | 0, _, _ => failAt [] .endOfString
  | steps + 1, read, cs =>
    match cs with
    | [] => failAt [] .endOfString
    | '"' :: rest => .ok (read.reverse, rest)
    | '\\' :: rest => do
      let (c, rest) ← readEscape rest
      readChars steps (c :: read) rest
    | c :: rest =>
      if c.toNat < 0x20 then failAt rest .controlCharacter else readChars steps (c :: read) rest

/-- A string after its opening quote. -/
def readString (cs : List Char) : Except Fault (String × List Char) := do
  let (read, rest) ← readChars (cs.length + 1) [] cs
  .ok (String.ofList read, rest)

/-! ## Numbers -/

def isDigit (c : Char) : Bool := '0' ≤ c && c ≤ '9'

def digitValue (c : Char) : Nat := c.toNat - 48

/-- Digits appended to a significand while it stays within 64 bits, with their number. -/
def takeDigits (significand count : Nat) : List Char → Nat × Nat × List Char
  | [] => (significand, count, [])
  | c :: rest =>
    let next := significand * 10 + digitValue c
    if isDigit c && decide ((next : Int) ≤ maxUInt64) then takeDigits next (count + 1) rest
    else (significand, count, c :: rest)

def dropDigits (cs : List Char) : List Char := cs.dropWhile isDigit

def startsWithDigit : List Char → Bool
  | c :: _ => isDigit c
  | [] => false

/-- A finished real number. -/
def realOf (negative : Bool) (significand : Nat) (exponent : Int) (rest : List Char) :
    Except Fault (Number × List Char) :=
  match Decimal.Binary64.ofScaled? negative significand exponent with
  | some x => .ok (.real x, rest)
  | none => failAt rest .numberOutOfRange

/-- Digits of an exponent while it stays within 31 bits. -/
def takeExponent (value : Nat) : List Char → Nat × List Char
  | [] => (value, [])
  | c :: rest =>
    let next := value * 10 + digitValue c
    if isDigit c && decide (next ≤ 2147483647) then takeExponent next rest else (value, c :: rest)

/-- The exponent of a number, after its letter. An exponent beyond 31 bits makes the number zero or
too large. -/
def readExponent (negative : Bool) (significand : Nat) (exponent : Int) (cs : List Char) :
    Except Fault (Number × List Char) :=
  let (up, cs) :=
    match cs with
    | '+' :: rest => (true, rest)
    | '-' :: rest => (false, rest)
    | _ => (true, cs)
  match cs with
  | [] => failAt [] .endOfValue
  | c :: _ =>
    if isDigit c then
      let (value, rest) := takeExponent 0 cs
      if startsWithDigit rest then
        if significand ≠ 0 ∧ up then failAfter rest .numberOutOfRange
        else .ok (.real (Decimal.Binary64.zero negative), dropDigits rest)
      else realOf negative significand (if up then exponent + value else exponent - value) rest
    else failAfter cs .invalidNumber

/-- What may follow the digits of a number with a fraction or beyond 64 bits. -/
def readScale (negative : Bool) (significand : Nat) (exponent : Int) (cs : List Char) :
    Except Fault (Number × List Char) :=
  match cs with
  | 'e' :: rest | 'E' :: rest => readExponent negative significand exponent rest
  | _ => realOf negative significand exponent cs

/-- The digits after the point. Those beyond 64 bits of significand are dropped. -/
def readFraction (negative : Bool) (significand : Nat) (exponent : Int) (cs : List Char) :
    Except Fault (Number × List Char) :=
  let (value, count, rest) := takeDigits significand 0 cs
  if startsWithDigit rest then readScale negative value (exponent - count) (dropDigits rest)
  else if count = 0 then
    failAfter rest (if rest.isEmpty then .endOfValue else .invalidNumber)
  else readScale negative value (exponent - count) rest

/-- What may follow the whole digits of a number. -/
def readTail (negative : Bool) (significand : Nat) (cs : List Char) :
    Except Fault (Number × List Char) :=
  match cs with
  | '.' :: rest => readFraction negative significand 0 rest
  | 'e' :: rest | 'E' :: rest => readExponent negative significand 0 rest
  | _ =>
    if !negative then .ok (.int significand, cs)
    else if significand = 0 ∨ -(significand : Int) < minInt64 then
      realOf true significand 0 cs
    else .ok (.int (-significand), cs)

/-- A number whose whole digits do not fit 64 bits. The digits that do not fit count as zeros. -/
def readLong (negative : Bool) (significand : Nat) (cs : List Char) :
    Except Fault (Number × List Char) :=
  let rest := dropDigits cs
  let extra := cs.length - rest.length
  match rest with
  | '.' :: more => readFraction negative significand extra more
  | _ => readScale negative significand extra rest

/-- A number after its sign. -/
def readNumber (negative : Bool) (cs : List Char) : Except Fault (Number × List Char) :=
  match cs with
  | [] => failAt [] .endOfValue
  | '0' :: rest =>
    if startsWithDigit rest then failAfter rest .invalidNumber else readTail negative 0 rest
  | c :: _ =>
    if isDigit c then
      let (significand, _, rest) := takeDigits 0 0 cs
      if startsWithDigit rest then readLong negative significand rest
      else readTail negative significand rest
    else failAfter cs .invalidNumber

/-! ## Values -/

/-- The elements of a list after its bracket, up to the closing bracket. A step takes at least one
character. -/
def readElements {α : Type} (element : Reader α) (first : Bool) :
    Nat → List Char → Except Fault (List α × List Char)
  | 0, _ => failAt [] .endOfList
  | steps + 1, cs =>
    let cs := skipSpace cs
    match cs with
    | [] => failAfter [] .endOfList
    | ']' :: rest => .ok ([], rest)
    | c :: rest =>
      if first then do
        let (v, rest) ← element cs
        let (more, rest) ← readElements element false steps rest
        .ok (v :: more, rest)
      else if c = ',' then
        let next := skipSpace rest
        match next with
        | [] => failAfter [] .endOfValue
        | ']' :: _ => failAfter next .trailingComma
        | _ => do
          let (v, rest) ← element next
          let (more, rest) ← readElements element false steps rest
          .ok (v :: more, rest)
      else failAfter cs .expectedListEnd

/-- The colon between a key and its value. -/
def readColon (cs : List Char) : Except Fault (List Char) :=
  let cs := skipSpace cs
  match cs with
  | [] => failAfter [] .endOfObject
  | ':' :: rest => .ok rest
  | _ => failAfter cs .expectedColon

/-- The members of an object after its brace, up to the closing brace. The reader of a member's
value starts behind the key. -/
def readMembers {α : Type} (value : String → Reader α) (first : Bool) :
    Nat → List Char → Except Fault (List (String × α) × List Char)
  | 0, _ => failAt [] .endOfObject
  | steps + 1, cs =>
    let cs := skipSpace cs
    let member (cs : List Char) : Except Fault (List (String × α) × List Char) := do
      let (key, rest) ← readString cs
      let (v, rest) ← value key rest
      let (more, rest) ← readMembers value false steps rest
      .ok ((key, v) :: more, rest)
    match cs with
    | [] => failAfter [] .endOfObject
    | '}' :: rest => .ok ([], rest)
    | c :: rest =>
      if first then
        if c = '"' then member rest else failAfter cs .expectedKey
      else if c = ',' then
        let next := skipSpace rest
        match next with
        | [] => failAfter [] .endOfValue
        | '"' :: rest => member rest
        | '}' :: _ => failAfter next .trailingComma
        | _ => failAfter next .expectedKey
      else failAfter cs .expectedObjectEnd

/-- A value with at most `depth` containers around one another. -/
def readValue : Nat → Reader Json
  | depth, cs =>
    let cs := skipSpace cs
    match cs with
    | [] => failAfter [] .endOfValue
    | 'n' :: rest => do .ok (.null, ← readWord ['u', 'l', 'l'] rest)
    | 't' :: rest => do .ok (.bool true, ← readWord ['r', 'u', 'e'] rest)
    | 'f' :: rest => do .ok (.bool false, ← readWord ['a', 'l', 's', 'e'] rest)
    | '"' :: rest => do
      let (s, rest) ← readString rest
      .ok (.str s, rest)
    | '[' :: rest =>
      match depth with
      | 0 => failAfter cs .tooDeep
      | inner + 1 => do
        let (items, rest) ← readElements (readValue inner) true (rest.length + 1) rest
        .ok (.arr items, rest)
    | '{' :: rest =>
      match depth with
      | 0 => failAfter cs .tooDeep
      | inner + 1 => do
        let value (_ : String) : Reader Json := fun cs => do readValue inner (← readColon cs)
        let (members, rest) ← readMembers value true (rest.length + 1) rest
        .ok (object members, rest)
    | '-' :: rest => do
      let (n, rest) ← readNumber true rest
      .ok (.num n, rest)
    | c :: _ =>
      if isDigit c then do
        let (n, rest) ← readNumber false cs
        .ok (.num n, rest)
      else failAfter cs .expectedValue

/-- Runs a reader on a whole text. -/
def readAll {α : Type} (reader : Reader α) (cs : List Char) : Except Fault α := do
  let (v, rest) ← reader cs
  let rest := skipSpace rest
  if rest.isEmpty then .ok v else failAfter rest .trailingCharacters

/-- Containers around one another that a text may have. -/
def maxDepth : Nat := 127

def parse (s : String) : Except Fault Json := readAll (readValue maxDepth) s.toList

end CloudGate.Json
