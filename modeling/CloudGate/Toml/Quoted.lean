import CloudGate.Text.Split
import CloudGate.Toml.Scalar

/-!
Strings: basic ones with escapes and literal ones without, on one line or on several between three
quotes. The written form of a string is literal where that saves escapes.
-/

namespace CloudGate.Toml

/-- Control characters other than the tab, which stand in no string and in no comment. -/
def isControl (c : Char) : Bool := (c.toNat < 0x20 && c != '\t') || c.toNat == 0x7F

/-! ## Reading -/

/-- The character of hexadecimal digits. -/
def charOfHex? (digits : List Char) : Option Char := do
  if !digits.all fun c => c.isDigit || ('a' ≤ c && c ≤ 'f') || ('A' ≤ c && c ≤ 'F') then none
  let n := inBase 16 digits
  if h : n.isValidChar then some (Char.ofNatAux n h) else none

/-- Takes an escape after its backslash. -/
def readEscape : Reader Char
  | 'b' :: rest => some ('\x08', rest)
  | 't' :: rest => some ('\t', rest)
  | 'n' :: rest => some ('\n', rest)
  | 'f' :: rest => some ('\x0c', rest)
  | 'r' :: rest => some ('\r', rest)
  | '"' :: rest => some ('"', rest)
  | '\\' :: rest => some ('\\', rest)
  | 'u' :: rest =>
    if rest.length < 4 then none else (charOfHex? (rest.take 4)).map (·, rest.drop 4)
  | 'U' :: rest =>
    if rest.length < 8 then none else (charOfHex? (rest.take 8)).map (·, rest.drop 8)
  | _ => none

/-- The rest of a basic string on one line. -/
def readBasic : Nat → Reader (List Char)
  | 0, _ => none
  | _ + 1, [] => none
  | _ + 1, '"' :: rest => some ([], rest)
  | steps + 1, '\\' :: rest => do
    let (c, rest) ← readEscape rest
    let (cs, rest) ← readBasic steps rest
    some (c :: cs, rest)
  | steps + 1, c :: rest => do
    if isControl c then none
    let (cs, rest) ← readBasic steps rest
    some (c :: cs, rest)

/-- The rest of a literal string on one line. -/
def readLiteral : Reader (List Char)
  | [] => none
  | '\'' :: rest => some ([], rest)
  | c :: rest => do
    if isControl c then none
    let (cs, rest) ← readLiteral rest
    some (c :: cs, rest)

/-- Passes a line break. -/
def afterBreak? : List Char → Option (List Char)
  | '\n' :: rest => some rest
  | '\r' :: '\n' :: rest => some rest
  | _ => none

/-- Drops blanks and line breaks after a backslash at the end of a line, if it is one. -/
def afterContinuation? (cs : List Char) : Option (List Char) :=
  let isGap (c : Char) : Bool := c == ' ' || c == '\t'
  match afterBreak? (cs.dropWhile isGap) with
  | some rest => some (rest.dropWhile fun c => isGap c || c == '\n' || c == '\r')
  | none => none

/-- The quotes at the end of a string on several lines: three, and up to two of the string. -/
def closing? (quote : Char) (cs : List Char) : Option (List Char × List Char) :=
  let count := (cs.takeWhile (· == quote)).length
  if 3 ≤ count ∧ count ≤ 5 then some (List.replicate (count - 3) quote, cs.drop count)
  else if 5 < count then some (List.replicate 2 quote, cs.drop 5)
  else none

/-- The rest of a string on several lines. -/
def readLines (quote : Char) (escapes : Bool) : Nat → Reader (List Char)
  | 0, _ => none
  | steps + 1, cs =>
    match closing? quote cs with
    | some done => some done
    | none =>
      match afterBreak? cs, cs with
      | some rest, _ => do
        let (more, rest) ← readLines quote escapes steps rest
        some ('\n' :: more, rest)
      | none, [] => none
      | none, c :: rest => do
        if escapes && c == '\\' then
          match afterContinuation? rest with
          | some rest => readLines quote escapes steps rest
          | none =>
            let (d, rest) ← readEscape rest
            let (more, rest) ← readLines quote escapes steps rest
            some (d :: more, rest)
        else if isControl c then none
        else
          let (more, rest) ← readLines quote escapes steps rest
          some (c :: more, rest)

/-- Reads a string on several lines after its quotes. A line break right after them is dropped. -/
def readBlock (quote : Char) (escapes : Bool) : Reader (List Char) := fun cs =>
  readLines quote escapes (cs.length + 1) ((afterBreak? cs).getD cs)

/-- Reads a string on one line. -/
def readLine : Reader String
  | '"' :: rest => (readBasic (rest.length + 1) rest).map fun (cs, rest) => (String.ofList cs, rest)
  | '\'' :: rest => (readLiteral rest).map fun (cs, rest) => (String.ofList cs, rest)
  | _ => none

/-- Reads a string of any form. -/
def readText : Reader String
  | '"' :: '"' :: '"' :: rest =>
    (readBlock '"' true rest).map fun (cs, rest) => (String.ofList cs, rest)
  | '\'' :: '\'' :: '\'' :: rest =>
    (readBlock '\'' false rest).map fun (cs, rest) => (String.ofList cs, rest)
  | cs => readLine cs

/-! ## Writing -/

/-- The longest run of single quotes. -/
def longestRun (quote : Char) : Nat → List Char → Nat
  | run, [] => run
  | run, c :: rest =>
    if c = quote then longestRun quote (run + 1) rest else max run (longestRun quote 0 rest)

/-- A literal string saves escapes if there are backslashes or quotes, and is possible without
control characters, three single quotes or a single quote at the end. -/
def prefersLiteral (cs : List Char) : Bool :=
  (cs.contains '"' || cs.contains '\\') &&
    !(cs.any fun c => isControl c && c != '\n') && longestRun '\'' 0 cs < 3 &&
    cs.getLast? != some '\''

def upperHex (n : Nat) : List Char :=
  let digits := (Nat.toDigits 16 n).map Char.toUpper
  List.replicate (4 - digits.length) '0' ++ digits

/-- The form of a character in a basic string. Line breaks stand for themselves on several lines. -/
def escapeChar (lines : Bool) (c : Char) : List Char :=
  if c = '\x08' then ['\\', 'b']
  else if c = '\t' then ['\\', 't']
  else if c = '\n' then (if lines then ['\n'] else ['\\', 'n'])
  else if c = '\x0c' then ['\\', 'f']
  else if c = '\r' then ['\\', 'r']
  else if c = '"' then ['\\', '"']
  else if c = '\\' then ['\\', '\\']
  else if isControl c then ['\\', 'u'] ++ upperHex c.toNat
  else [c]

/-- Writes a string: on several lines if it has line breaks. -/
def renderText (s : String) : String :=
  let cs := s.toList
  let lines := cs.contains '\n'
  if prefersLiteral cs then
    let quotes := if lines || cs.contains '\'' then "'''" else "'"
    quotes ++ (if lines then "\n" else "") ++ s ++ quotes
  else
    let quotes := if lines then "\"\"\"" else "\""
    quotes ++ (if lines then "\n" else "") ++ String.ofList (cs.flatMap (escapeChar lines)) ++
      quotes

end CloudGate.Toml
