import CloudGate.Settings.Basic
import CloudGate.Settings.Value
import CloudGate.Toml.Quoted

/-!
Settings in variables of the environment: `CLOUDOPS_<SECTION>__<KEY>`, in any case. A value that
looks like a truth value, a number, a quoted text, a list or a table is one, and any other is text.
Single quotes hold a single character.
-/

namespace CloudGate.Settings.Variable

/-! ## Values -/

abbrev Reader (α : Type) := List Char → Option (α × List Char)

def isBlank (c : Char) : Bool := c == ' ' || c == '\t' || c == '\n'

def skipBlanks (cs : List Char) : List Char := cs.dropWhile isBlank

/-- The characters that end a word without quotes. -/
def isSeparator (c : Char) : Bool := c == ',' || c == '\x7b' || c == '\x7d' || c == '[' || c == ']'

/-- A number with a point in it, in any of the usual spellings. -/
def real? (word : List Char) : Option Decimal.Real :=
  let n := Decimal.Real.numeral word
  let fraction := n.fraction.getD []
  if n.fraction.isSome && (n.whole ++ fraction).all Char.isDigit &&
      !(n.whole ++ fraction).isEmpty && n.exponent.all Decimal.Real.isExponent then
    some (.ofNumeral n)
  else none

/-- A non-negative integer, perhaps with a plus sign, or a negative one with a minus sign, within 64
bits. -/
def int? (word : List Char) : Option Scalar :=
  let digits :=
    match word with
    | '-' :: rest | '+' :: rest => rest
    | _ => word
  let n := Decimal.Real.signedValue word
  if digits.isEmpty || !digits.all Char.isDigit then none
  else if word.head? = some '-' then (if minInt64 ≤ n then some (.int n true) else none)
  else if n ≤ maxUInt64 then some (.int n false)
  else none

/-- A word without quotes. -/
def ofWord (word : List Char) : Scalar :=
  match (if word.contains '.' then real? word else none) with
  | some x => .real x
  | none => (int? word).getD (.str (String.ofList word))

/-- The rest of a text in quotes. -/
def readQuoted : Nat → Reader (List Char)
  | 0, _ => none
  | _ + 1, [] => none
  | _ + 1, '"' :: rest => some ([], rest)
  | steps + 1, '\\' :: rest => do
    let (c, rest) ← Toml.readEscape rest
    let (cs, rest) ← readQuoted steps rest
    some (c :: cs, rest)
  | steps + 1, c :: rest => do
    if Toml.isControl c then none
    let (cs, rest) ← readQuoted steps rest
    some (c :: cs, rest)

def readText (cs : List Char) : Option (String × List Char) :=
  (readQuoted (cs.length + 1) cs).map fun (text, rest) => (String.ofList text, rest)

/-- A key of a table: quoted, or letters, digits, underscores and hyphens. -/
def readKey : Reader String
  | '"' :: rest => readText rest
  | cs =>
    let isKeyChar (c : Char) : Bool := c.isAlphanum || c == '_' || c == '-'
    let word := cs.takeWhile isKeyChar
    if word.isEmpty then none else some (String.ofList word, cs.dropWhile isKeyChar)

/-- Elements between commas up to a closing bracket. -/
def readSequence {α : Type} (close : Char) (element : Reader α) : Nat → Reader (List α)
  | 0, _ => none
  | steps + 1, cs =>
    if (skipBlanks cs).head? = some close then some ([], (skipBlanks cs).drop 1)
    else do
      let (a, rest) ← element cs
      match rest with
      | c :: rest =>
        if c = ',' then do
          let (more, rest) ← readSequence close element steps rest
          some (a :: more, rest)
        else if c = close then some ([a], rest)
        else none
      | [] => none

def readMember (value : Reader Value) : Reader (String × Value) := fun cs => do
  let (key, rest) ← readKey (skipBlanks cs)
  match skipBlanks rest with
  | '=' :: rest => do
    let (v, rest) ← value rest
    some ((key, v), rest)
  | _ => none

/-- Reads a value with the blanks around it. -/
def readValue : Nat → Reader Value
  | 0, _ => none
  | depth + 1, cs => do
    let source := Source.environment
    let cs := skipBlanks cs
    let (v, rest) ←
      match Text.afterPrefix? "true".toList cs, Text.afterPrefix? "false".toList cs, cs with
      | some rest, _, _ => some (.scalar source (.bool true), rest)
      | none, some rest, _ => some (.scalar source (.bool false), rest)
      | none, none, '\x7b' :: rest =>
        (readSequence '\x7d' (readMember (readValue depth)) (rest.length + 1) rest).map
          fun (ms, rest) => (.table source (Fields.ofList ms), rest)
      | none, none, '[' :: rest =>
        (readSequence ']' (readValue depth) (rest.length + 1) rest).map
          fun (vs, rest) => (.list source vs, rest)
      | none, none, '"' :: rest =>
        (readText rest).map fun (s, rest) => (.scalar source (.str s), rest)
      | none, none, '\'' :: c :: '\'' :: rest =>
        some (.scalar source (.str (String.singleton c)), rest)
      | none, none, _ =>
        let word := cs.takeWhile fun c => !isSeparator c
        some (.scalar source (ofWord (Text.trimChars word)), cs.drop word.length)
    some (v, skipBlanks rest)

/-- The value of a variable. What cannot be read to its end is text. -/
def valueOf (text : String) : Value :=
  let cs := Text.trimChars text.toList
  match readValue (cs.length + 1) cs with
  | some (v, []) => v
  | _ => .scalar .environment (.str (String.ofList cs))

/-! ## Names -/

/-- Two underscores part the names of section and key. -/
def splitName : List Char → List Char
  | '_' :: '_' :: rest => '.' :: splitName rest
  | c :: rest => c :: splitName rest
  | [] => []

/-- The place among the settings that the name of a variable stands for. -/
def pathOf? (name : String) : Option (List String) := do
  let cs := Text.trimChars name.toList
  let size := variablePrefix.length
  let start := cs.take size
  if String.ofList (start.map Char.toUpper) ≠ variablePrefix then none
  let parts := Text.splitBy '.' ((splitName (Text.trimChars (cs.drop size))).map Char.toLower)
  if parts.any List.isEmpty then none else some (parts.map String.ofList)

/-- The settings of all variables. Of two for one setting the one later in order of names counts. -/
def layer (env : Environment) : Fields Value :=
  env.foldl
    (fun members (name, text) =>
      match pathOf? name with
      | none => members
      | some path =>
        match Value.nest .environment (valueOf text) path with
        | .table _ added => Value.mergeMembers members added
        | _ => members)
    []

end CloudGate.Settings.Variable
