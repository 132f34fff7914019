import CloudGate.Json.Basic
import CloudGate.Json.Fault

/-!
Decoding of JSON values into typed ones. A record is written as an object, whose unknown members are
ignored, or as the list of its fields in their order; a variant is written as its name.
-/

namespace CloudGate.Json

/-- How a value shows in the report that another one was wanted. -/
def found : Json → Found
  | .null => .null
  | .bool b => .bool b
  | .num (.int n) => .int n
  | .num (.real x) => .real x
  | .str s => .str s
  | .arr _ => .seq
  | .obj _ => .map

abbrev Decoder (α : Type) := Json → Except ShapeError α

namespace Decoder

def mismatch {α : Type} (expected : String) (v : Json) : Except ShapeError α :=
  .error (.invalidType v.found expected)

def any : Decoder Json := fun v => .ok v

def string : Decoder String
  | .str s => .ok s
  | v => mismatch "a string" v

/-- A path of the file system, which in JSON is a string. -/
def path : Decoder String
  | .str s => .ok s
  | v => mismatch "path string" v

def bool : Decoder Bool
  | .bool b => .ok b
  | v => mismatch "a boolean" v

/-- An integer from 0 to `2 ^ 64 - 1`, under the name of its type. -/
def unsigned (type : String) : Decoder Nat
  | .num (.int n) => if 0 ≤ n then .ok n.toNat else .error (.invalidValue (.int n) type)
  | v => mismatch type v

/-- Null stands for nothing. -/
def optional {α : Type} (d : Decoder α) : Decoder (Option α)
  | .null => .ok none
  | v => (d v).map some

def list {α : Type} (d : Decoder α) : Decoder (List α)
  | .arr items => items.mapM d
  | v => mismatch "a sequence" v

/-- The null that may stand beside the name of a variant. -/
def unit : Decoder Unit
  | .null => .ok ()
  | v => mismatch "unit" v

def variantNamed {α : Type} (variants : List (String × α)) (name : String) : Except ShapeError α :=
  match variants.find? (·.1 == name) with
  | some (_, a) => .ok a
  | none => .error (.unknownVariant name (variants.map (·.1)))

/-- A variant by its name, which may be the only key of an object that holds null. -/
def variant {α : Type} (variants : List (String × α)) : Decoder α
  | .str s => variantNamed variants s
  | .obj [(name, v)] => do
    let a ← variantNamed variants name
    unit v
    .ok a
  | .obj _ => .error (.invalidValue .map "map with a single key")
  | v => mismatch "string or map" v

end Decoder

/-- Which written forms of a record may leave a field out. -/
inductive Presence
  | required
  | omittedInObject
  | omitted
  deriving DecidableEq

/-- A field of a record: its name, the other names it goes by, and the test of its value. -/
structure Field where
  name : String
  presence : Presence
  check : Decoder Unit
  aliases : List String := []

/-- A field whose value is tested by decoding it. -/
def field {α : Type} (name : String) (presence : Presence) (d : Decoder α) : Field :=
  { name, presence, check := fun v => (d v).map fun _ => () }

def Field.isNamed (f : Field) (name : String) : Bool := f.name == name || f.aliases.contains name

namespace Record

/-- Takes the members of an object one after the other. -/
def ofMembers (fields : List Field) (taken : Fields Json) :
    List (String × Json) → Except ShapeError (Fields Json)
  | [] => .ok taken
  | (name, v) :: rest =>
    match fields.find? (·.isNamed name) with
    | none => ofMembers fields taken rest
    | some f => do
      if taken.contains f.name then .error (.duplicateField f.name)
      f.check v
      ofMembers fields (taken.insert f.name v) rest

/-- Takes the elements of a list, one for each field. -/
def ofItems (expected : String) (length index : Nat) :
    List Field → List Json → Except ShapeError (Fields Json)
  | [], [] => .ok []
  | [], _ :: _ => .error (.invalidLength length "fewer elements in array")
  | f :: fields, [] =>
    if f.presence = .omitted then ofItems expected length (index + 1) fields []
    else .error (.invalidLength index expected)
  | f :: fields, v :: rest => do
    f.check v
    let taken ← ofItems expected length (index + 1) fields rest
    .ok (taken.insert f.name v)

/-- The members of a record under the names of their fields, each tested. -/
def members (type : String) (fields : List Field) : Decoder (Fields Json)
  | .obj members => do
    let taken ← ofMembers fields [] members
    match fields.find? fun f => f.presence = .required && !taken.contains f.name with
    | some f => .error (.missingField f.name)
    | none => .ok taken
  | .arr items =>
    ofItems (type ++ " with " ++ toString fields.length ++ " elements") items.length 0 fields items
  | v => Decoder.mismatch type v

/-- The value of a field that has been tested, or a default. -/
def get {α : Type} (taken : Fields Json) (name : String) (d : Decoder α) (default : α) :
    Except ShapeError α :=
  match taken.get? name with
  | some v => d v
  | none => .ok default

end Record

end CloudGate.Json
