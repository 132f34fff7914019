import CloudGate.Json.Decode
import CloudGate.Json.Reader

/-!
Reading typed values straight from text, so that a value of the wrong shape is reported with its
place, and before anything that is wrong further on. Members that nobody asks for are skipped.
-/

namespace CloudGate.Json

/-! ## Skipping -/

/-- Passes an escape after its backslash. Its code point may be anything. -/
def skipEscape (cs : List Char) : Except Fault (List Char) :=
  match cs with
  | [] => failAt [] .endOfString
  | 'u' :: rest => do
    let (_, rest) ← readHex rest
    .ok rest
  | c :: rest => if (simpleEscape? c).isSome then .ok rest else failAfter cs .invalidEscape

/-- Passes a string after its opening quote. -/
def skipString : Nat → List Char → Except Fault (List Char)
  | 0, _ => failAt [] .endOfString
  | steps + 1, cs =>
    match cs with
    | [] => failAt [] .endOfString
    | '"' :: rest => .ok rest
    | '\\' :: rest => do skipString steps (← skipEscape rest)
    | c :: rest => if c.toNat < 0x20 then failAt cs .controlCharacter else skipString steps rest

/-- Passes an exponent after its letter. -/
def skipExponent (cs : List Char) : Except Fault (List Char) :=
  let cs :=
    match cs with
    | '+' :: rest | '-' :: rest => rest
    | _ => cs
  if startsWithDigit cs then .ok (dropDigits cs) else failAfter cs .invalidNumber

/-- Passes what follows the whole digits of a number. -/
def skipTail (cs : List Char) : Except Fault (List Char) :=
  match cs with
  | '.' :: rest =>
    if startsWithDigit rest then
      match dropDigits rest with
      | 'e' :: more | 'E' :: more => skipExponent more
      | more => .ok more
    else failAfter rest .invalidNumber
  | 'e' :: rest | 'E' :: rest => skipExponent rest
  | _ => .ok cs

/-- Passes a number after its sign. -/
def skipNumber (cs : List Char) : Except Fault (List Char) :=
  match cs with
  | '0' :: rest => if startsWithDigit rest then failAfter rest .invalidNumber else skipTail rest
  | _ => if startsWithDigit cs then skipTail (dropDigits cs) else failAfter cs .invalidNumber

/-- A container that is being skipped. -/
inductive Frame
  | list
  | object

def Frame.endOf : Frame → Cause
  | .list => .endOfList
  | .object => .endOfObject

def Frame.expectedEnd : Frame → Cause
  | .list => .expectedListEnd
  | .object => .expectedObjectEnd

def Frame.closes : Frame → Char → Bool
  | .list, c => c == ']'
  | .object, c => c == '}'

mutual

/-- Passes a value inside the containers of the stack, and then the rest of these. Containers may be
nested without limit. -/
def skipItem : Nat → List Frame → List Char → Except Fault (List Char)
  | 0, _, _ => failAt [] .endOfValue
  | steps + 1, stack, cs => do
    let cs := skipSpace cs
    match cs with
    | [] => failAfter [] .endOfValue
    | 'n' :: rest => skipOn steps stack (← readWord ['u', 'l', 'l'] rest)
    | 't' :: rest => skipOn steps stack (← readWord ['r', 'u', 'e'] rest)
    | 'f' :: rest => skipOn steps stack (← readWord ['a', 'l', 's', 'e'] rest)
    | '-' :: rest => skipOn steps stack (← skipNumber rest)
    | '"' :: rest => skipOn steps stack (← skipString (rest.length + 1) rest)
    | '[' :: rest => skipInside steps .list stack false rest
    | '{' :: rest => skipInside steps .object stack false rest
    | c :: _ =>
      if isDigit c then skipOn steps stack (← skipNumber cs) else failAfter cs .expectedValue

/-- Goes on after a value. -/
def skipOn : Nat → List Frame → List Char → Except Fault (List Char)
  | 0, _, _ => failAt [] .endOfValue
  | _ + 1, [], cs => .ok cs
  | steps + 1, frame :: stack, cs => skipInside steps frame stack true cs

/-- Goes on inside a container, after its opening or after an element. -/
def skipInside : Nat → Frame → List Frame → Bool → List Char → Except Fault (List Char)
  | 0, _, _, _, _ => failAt [] .endOfValue
  | steps + 1, frame, stack, afterElement, cs =>
    let cs := skipSpace cs
    match cs with
    | [] => failAfter [] frame.endOf
    | c :: rest =>
      if frame.closes c then skipOn steps stack rest
      else if afterElement then
        if c = ',' then skipEntry steps frame stack rest else failAfter cs frame.expectedEnd
      else skipEntry steps frame stack cs

/-- Passes an element with its key. -/
def skipEntry : Nat → Frame → List Frame → List Char → Except Fault (List Char)
  | 0, _, _, _ => failAt [] .endOfValue
  | steps + 1, .list, stack, cs => skipItem steps (.list :: stack) cs
  | steps + 1, .object, stack, cs => do
    let cs := skipSpace cs
    match cs with
    | [] => failAfter [] .endOfObject
    | '"' :: rest =>
      let rest ← skipString (rest.length + 1) rest
      skipItem steps (.object :: stack) (← readColon rest)
    | _ => failAfter cs .expectedKey

end

/-- Passes a value of any shape. Every character takes part in at most four steps. -/
def skipValue : Reader Unit := fun cs => do .ok ((), ← skipItem (4 * cs.length + 4) [] cs)

/-! ## Typed values -/

/-- The report that a value of another shape stands here. A scalar is read before the report. -/
def mismatchAt {α : Type} (expected : String) (cs : List Char) : Except Fault α := do
  let wrong (shown : Found) (rest : List Char) : Except Fault α :=
    failAt rest (.shape (.invalidType shown expected))
  match cs with
  | [] => failAfter [] .expectedValue
  | 'n' :: rest => wrong .null (← readWord ['u', 'l', 'l'] rest)
  | 't' :: rest => wrong (.bool true) (← readWord ['r', 'u', 'e'] rest)
  | 'f' :: rest => wrong (.bool false) (← readWord ['a', 'l', 's', 'e'] rest)
  | '"' :: rest =>
    let (s, rest) ← readString rest
    wrong (.str s) rest
  | '[' :: _ => wrong .seq cs
  | '{' :: _ => wrong .map cs
  | c :: rest =>
    if c = '-' || isDigit c then
      let (n, rest) ← if c = '-' then readNumber true rest else readNumber false cs
      wrong (Json.found (.num n)) rest
    else failAfter cs .expectedValue

def readText : Reader String := fun cs =>
  let cs := skipSpace cs
  match cs with
  | [] => failAfter [] .endOfValue
  | '"' :: rest => readString rest
  | _ => mismatchAt "a string" cs

/-- A list whose elements have one type. -/
def readListOf {α : Type} (element : Reader α) : Reader (List α) := fun cs =>
  let cs := skipSpace cs
  match cs with
  | [] => failAfter [] .endOfValue
  | '[' :: rest => readElements element true (rest.length + 1) rest
  | _ => mismatchAt "a sequence" cs

/-- The end of a list that holds as many elements as were wanted. -/
def readListEnd (cs : List Char) : Except Fault (List Char) :=
  let cs := skipSpace cs
  match cs with
  | [] => failAfter [] .endOfList
  | ']' :: rest => .ok rest
  | ',' :: rest =>
    let next := skipSpace rest
    match next with
    | ']' :: _ => failAfter next .trailingComma
    | _ => failAfter next .trailingCharacters
  | _ => failAfter cs .trailingCharacters

end CloudGate.Json
