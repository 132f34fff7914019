import CloudGate.Json.Typed
import CloudGate.Rule.Credential
import CloudGate.Rule.Resource
import CloudGate.Tool.Call

/-!
The buckets that a new access key may reach. Grants come as a list of records or as JSON text of
such a list; a record names its bucket, region and permissions, and calls the region `cluster` if it
likes.
-/

namespace CloudGate

structure Grant where
  bucketName : String
  region : String
  permissions : String
  deriving DecidableEq, Repr

namespace Grant

def check (g : Grant) : Verdict := do
  Rule.bucketLabel g.bucketName
  Rule.region "region" g.region
  Rule.accessKeyPermission g.permissions

def typeName : String := "struct BucketGrant"

/-- The fields in their order. Every field may be left out, and is empty then. -/
def fields : List Json.Field :=
  [Json.field "bucket_name" .omitted Json.Decoder.string,
   { Json.field "region" .omitted Json.Decoder.string with aliases := ["cluster"] },
   Json.field "permissions" .omitted Json.Decoder.string]

/-- A grant from the texts of its fields. -/
def ofTexts (texts : Fields String) : Grant :=
  { bucketName := (texts.get? "bucket_name").getD ""
    region := (texts.get? "region").getD ""
    permissions := (texts.get? "permissions").getD "" }

def decode : Json.Decoder Grant := fun v => do
  let taken ← Json.Record.members typeName fields v
  .ok (ofTexts (taken.mapValues fun _ v => v.str?.getD ""))

def toJson (g : Grant) : Json :=
  .object [("bucket_name", .str g.bucketName), ("region", .str g.region),
    ("permissions", .str g.permissions)]

/-! ## Reading from text -/

/-- The place where a key is reported: behind the blanks after it, and behind the closing brace if
that comes next. -/
def reportPlace (cs : List Char) : List Char :=
  match Json.skipSpace cs with
  | '}' :: rest => rest
  | rest => rest

/-- The members of a record after its brace. -/
def readMembers (taken : Fields String) (first : Bool) :
    Nat → List Char → Except Json.Fault (Fields String × List Char)
  | 0, _ => Json.failAt [] .endOfObject
  | steps + 1, cs =>
    let cs := Json.skipSpace cs
    let member (cs : List Char) : Except Json.Fault (Fields String × List Char) := do
      let (key, rest) ← Json.readString cs
      match fields.find? (·.isNamed key) with
      | none =>
        let (_, rest) ← Json.skipValue (← Json.readColon rest)
        readMembers taken false steps rest
      | some f =>
        if taken.contains f.name then
          Json.failAt (reportPlace rest) (.shape (.duplicateField f.name))
        else
          let (text, rest) ← Json.readText (← Json.readColon rest)
          readMembers (taken.insert f.name text) false steps rest
    match cs with
    | [] => Json.failAfter [] .endOfObject
    | '}' :: rest => .ok (taken, rest)
    | c :: rest =>
      if first then
        if c = '"' then member rest else Json.failAfter cs .expectedKey
      else if c = ',' then
        let next := Json.skipSpace rest
        match next with
        | [] => Json.failAfter [] .endOfValue
        | '"' :: rest => member rest
        | '}' :: _ => Json.failAfter next .trailingComma
        | _ => Json.failAfter next .expectedKey
      else Json.failAfter cs .expectedObjectEnd

/-- The elements of a record in list form after its bracket. -/
def readItems (taken : Fields String) (first : Bool) :
    List Json.Field → List Char → Except Json.Fault (Fields String × List Char)
  | [], cs => do .ok (taken, ← Json.readListEnd cs)
  | f :: fields, cs =>
    let cs := Json.skipSpace cs
    let element (cs : List Char) : Except Json.Fault (Fields String × List Char) := do
      let (text, rest) ← Json.readText cs
      readItems (taken.insert f.name text) false fields rest
    match cs with
    | [] => Json.failAfter [] .endOfList
    | ']' :: rest => .ok (taken, rest)
    | c :: rest =>
      if first then element cs
      else if c = ',' then
        let next := Json.skipSpace rest
        match next with
        | [] => Json.failAfter [] .endOfValue
        | ']' :: _ => Json.failAfter next .trailingComma
        | _ => element next
      else Json.failAfter cs .expectedListEnd

def read : Json.Reader Grant := fun cs => do
  let cs := Json.skipSpace cs
  match cs with
  | [] => Json.failAfter [] .endOfValue
  | '{' :: rest =>
    let (texts, rest) ← readMembers [] true (rest.length + 1) rest
    .ok (ofTexts texts, rest)
  | '[' :: rest =>
    let (texts, rest) ← readItems [] true fields rest
    .ok (ofTexts texts, rest)
  | _ => Json.mismatchAt typeName cs

/-! ## The argument -/

def argumentName : String := "bucket_access"

def invalid (detail : String) : Violation :=
  ⟨.invalidFormat,
    "bucket_access must be a list of \x7bbucket_name, region, permissions\x7d objects: " ++ detail⟩

/-- The grants in a text. -/
def parseList (text : List Char) : Except Violation (List Grant) :=
  match Json.readAll (Json.readListOf read) text with
  | .ok grants => .ok grants
  | .error fault => .error (invalid (fault.message text))

/-- The grants in a value. Null and a blank text hold none. -/
def ofJson : Json → Except Violation (List Grant)
  | .null => .ok []
  | .str s => if Text.isBlankText s then .ok [] else parseList s.toList
  | v =>
    match Json.Decoder.list decode v with
    | .ok grants => .ok grants
    | .error e => .error (invalid e.message)

/-- The grants that a call asks for. -/
def ofCall (call : ToolCall) : Except Violation (List Grant) :=
  match call.get? argumentName with
  | none => .ok []
  | some v => ofJson v

end Grant

end CloudGate
