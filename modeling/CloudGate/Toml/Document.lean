import CloudGate.Toml.Quoted
import CloudGate.Toml.Tree

/-!
Reading of TOML documents: lines with a key and its value, headers of tables and of elements of
arrays of tables, blanks and comments. A document either is one or not; why not is not told.
-/

namespace CloudGate.Toml

def isBlank (c : Char) : Bool := c == ' ' || c == '\t'

def skipBlanks (cs : List Char) : List Char := cs.dropWhile isBlank

/-! ## Keys -/

def isBareChar (c : Char) : Bool := c.isAlphanum || c == '_' || c == '-'

def readSimpleKey : Reader String := fun cs =>
  match cs.head? with
  | some '"' | some '\'' => readLine cs
  | _ =>
    let word := cs.takeWhile isBareChar
    if word.isEmpty then none else some (String.ofList word, cs.dropWhile isBareChar)

/-- A key with dots between its parts, and blanks around the dots. -/
def readKey : Nat → Reader (List String)
  | 0, _ => none
  | steps + 1, cs => do
    let (key, rest) ← readSimpleKey (skipBlanks cs)
    match skipBlanks rest with
    | '.' :: more => do
      let (path, rest) ← readKey steps more
      some (key :: path, rest)
    | rest => some ([key], rest)

/-- Parts of a key that a document may have. -/
def maxDepth : Nat := 80

/-! ## Values -/

/-- The rest of a line after a comment sign. -/
def afterComment? (cs : List Char) : Option (List Char) :=
  let comment := cs.takeWhile fun c => c != '\n' && c != '\r'
  if comment.any isControl then none else some (cs.drop comment.length)

/-- Passes blanks, line breaks and comments. -/
def skipGaps : Nat → List Char → Option (List Char)
  | 0, cs => some cs
  | steps + 1, cs =>
    match skipBlanks cs with
    | '#' :: rest => do skipGaps steps (← afterComment? rest)
    | rest =>
      match afterBreak? rest with
      | some more => skipGaps steps more
      | none => some rest

/-- The elements of an array after its bracket, or after a comma. -/
def readItems (item : Reader Value) : Nat → Reader (List Value)
  | 0, _ => none
  | steps + 1, cs => do
    let cs ← skipGaps cs.length cs
    match cs with
    | ']' :: rest => some ([], rest)
    | _ => do
      let (v, rest) ← item cs
      let rest ← skipGaps rest.length rest
      match rest with
      | ',' :: rest => do
        let (vs, rest) ← readItems item steps rest
        some (v :: vs, rest)
      | ']' :: rest => some ([v], rest)
      | _ => none

/-- The members of an inline table, from the first key on. -/
def readPairs (item : Reader Value) (t : Tree) : Nat → Reader Tree
  | 0, _ => none
  | steps + 1, cs => do
    let (path, rest) ← readKey maxDepth cs
    match rest with
    | '=' :: rest => do
      let (v, rest) ← item (skipBlanks rest)
      let t ← t.assign v path
      match skipBlanks rest with
      | ',' :: rest => readPairs item t steps rest
      | '}' :: rest => some (t, rest)
      | _ => none
    | _ => none

/-- Reads a value that may have so many arrays and inline tables inside one another. -/
def readValue (depth : Nat) : Reader Value := fun cs =>
  match cs with
  | '"' :: _ | '\'' :: _ => (readText cs).map fun (s, rest) => (.str s, rest)
  | '[' :: rest =>
    match depth with
    | 0 => none
    | inner + 1 =>
      (readItems (readValue inner) (rest.length + 1) rest).map fun (vs, rest) => (.array vs, rest)
  | '{' :: rest =>
    match depth with
    | 0 => none
    | inner + 1 =>
      match skipBlanks rest with
      | '}' :: rest => some (.table [], rest)
      | rest =>
        (readPairs (readValue inner) (Tree.emptyTable .header) (rest.length + 1) rest).map
          fun (t, rest) => (t.toValue, rest)
  | _ => readScalar cs

/-! ## Lines -/

/-- The document so far and the table that is open. -/
structure State where
  root : Tree
  header : List String

/-- Passes the end of a line, with a comment before it. -/
def afterLine? (cs : List Char) : Option (List Char) := do
  let cs ←
    match skipBlanks cs with
    | '#' :: rest => afterComment? rest
    | rest => some rest
  if cs.isEmpty then some [] else afterBreak? cs

/-- Reads one line. -/
def readLineOf (state : State) (cs : List Char) : Option (State × List Char) :=
  match skipBlanks cs with
  | [] => some (state, [])
  | '[' :: '[' :: rest => do
    let (path, rest) ← readKey maxDepth rest
    let rest ← Text.afterPrefix? [']', ']'] rest
    let root ← state.root.openElement path
    some ({ root, header := path }, ← afterLine? rest)
  | '[' :: rest => do
    let (path, rest) ← readKey maxDepth rest
    let rest ← Text.afterPrefix? [']'] rest
    let root ← state.root.openTable path
    some ({ root, header := path }, ← afterLine? rest)
  | c :: rest =>
    if c = '#' ∨ c = '\n' ∨ c = '\r' then do some (state, ← afterLine? (c :: rest))
    else do
      let (path, rest) ← readKey maxDepth (c :: rest)
      let rest ← Text.afterPrefix? ['='] rest
      let (v, rest) ← readValue maxDepth (skipBlanks rest)
      let root ← state.root.assignUnder state.header path v
      some ({ state with root }, ← afterLine? rest)

def readLines? : Nat → State → List Char → Option Tree
  | _, state, [] => some state.root
  | 0, _, _ :: _ => none
  | steps + 1, state, cs => do
    let (state, rest) ← readLineOf state cs
    readLines? steps state rest

/-- The members of a document's root table. A byte order mark at the start is no part of it. -/
def parse? (s : String) : Option (Fields Value) := do
  let cs := if s.toList.head? = some '\ufeff' then s.toList.drop 1 else s.toList
  let root ← readLines? (cs.length + 1) { root := Tree.emptyTable .header, header := [] } cs
  match root.toValue with
  | .table members => some members
  | _ => none

end CloudGate.Toml
