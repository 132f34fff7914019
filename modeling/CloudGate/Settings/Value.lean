import CloudGate.Fields
import CloudGate.Settings.OutputFormat
import CloudGate.Text.Quoted
import CloudGate.Toml.Basic

/-!
Values of settings before they are decoded. Every value knows where it was set, so that a wrong one
can be traced. Layers of values are merged table by table, and what was set later wins.
-/

namespace CloudGate.Settings

/-- Where a value was set. A file is told by the path that is shown for it. -/
inductive Source
  | defaults
  | file (path : String)
  | environment
  deriving DecidableEq, Repr

/-- A single value. Integers of documents have a sign, those of variables only if they need one. -/
inductive Scalar
  | str (s : String)
  | bool (b : Bool)
  | int (n : Int) (signed : Bool)
  | real (x : Decimal.Real)
  deriving DecidableEq, Repr

inductive Value
  | scalar (source : Source) (s : Scalar)
  | list (source : Source) (items : List Value)
  | table (source : Source) (members : List (String × Value))

namespace Value

def source : Value → Source
  | .scalar source _ | .list source _ | .table source _ => source

/-- The member under which a date stands, which is a table. -/
def dateName : String := "$__toml_private_datetime"

mutual

/-- A value of a TOML document. -/
def ofToml (source : Source) : Toml.Value → Value
  | .str s => .scalar source (.str s)
  | .int n => .scalar source (.int n true)
  | .real x => .scalar source (.real x)
  | .bool b => .scalar source (.bool b)
  | .time text => .table source [(dateName, .scalar source (.str text))]
  | .array items => .list source (ofTomlItems source items)
  | .table members => .table source (ofTomlMembers source members)

def ofTomlItems (source : Source) : List Toml.Value → List Value
  | [] => []
  | v :: rest => ofToml source v :: ofTomlItems source rest

def ofTomlMembers (source : Source) : List (String × Toml.Value) → List (String × Value)
  | [] => []
  | (name, v) :: rest => (name, ofToml source v) :: ofTomlMembers source rest

end

/-! ## Merging -/

mutual

/-- Puts a later value over an earlier one. -/
def merge (earlier : Value) : Value → Value
  | .table source later =>
    match earlier with
    | .table _ members => .table source (mergeMembers members later)
    | _ => .table source later
  | later => later

/-- Puts the members of a later table into an earlier one. -/
def mergeMembers (members : List (String × Value)) :
    List (String × Value) → List (String × Value)
  | [] => members
  | (name, v) :: rest =>
    let merged :=
      match Fields.get? members name with
      | some earlier => merge earlier v
      | none => v
    mergeMembers (Fields.insert members name merged) rest

end

/-- A value inside tables of the given names. -/
def nest (source : Source) (v : Value) : List String → Value
  | [] => v
  | name :: path => .table source [(name, nest source v path)]

/-! ## Wrong values -/

def describe : Value → String
  | .scalar _ (.str s) => "string " ++ Text.quoted s
  | .scalar _ (.bool b) => if b then "bool true" else "bool false"
  | .scalar _ (.int n true) => "signed int `" ++ toString n ++ "`"
  | .scalar _ (.int n false) => "unsigned int `" ++ toString n ++ "`"
  | .scalar _ (.real x) => "float `" ++ x.render ++ "`"
  | .list _ _ => "sequence"
  | .table _ _ => "map"

end Value

/-- What is wrong with a value. -/
inductive Problem
  | invalidType (found expected : String)
  | invalidValue (found expected : String)
  | unknownVariant (name : String) (allowed : List String)
  deriving DecidableEq, Repr

def describeAllowed : List String → String
  | [a, b] => "`" ++ a ++ "` or `" ++ b ++ "`"
  | allowed => "one of " ++ ", ".intercalate (allowed.map fun a => "`" ++ a ++ "`")

def Problem.message : Problem → String
  | .invalidType found expected => "invalid type: found " ++ found ++ ", expected " ++ expected
  | .invalidValue found expected => "invalid value " ++ found ++ ", expected " ++ expected
  | .unknownVariant name allowed =>
    "unknown variant: found `" ++ name ++ "`, expected `" ++ describeAllowed allowed ++ "`"

/-- A wrong value, with its place among the settings and where it was set. -/
structure Mismatch where
  problem : Problem
  path : List String
  source : Source
  deriving DecidableEq, Repr

/-- The beginning of the names of the variables that hold settings. -/
def variablePrefix : String := "CLOUDOPS_"

/-- Settings of files are named in lowercase behind the name of their profile, those of variables in
uppercase. -/
def Source.keyText (path : List String) : Source → String
  | .environment => (".".intercalate path).toUpper
  | _ => ".".intercalate ("default" :: path)

def Source.text : Source → String
  | .defaults => "built-in defaults"
  | .file path => path ++ " TOML file"
  | .environment => "`" ++ variablePrefix ++ "` environment variable(s)"

def Mismatch.message (m : Mismatch) : String :=
  m.problem.message ++ " for key " ++ Text.quoted (m.source.keyText m.path) ++ " in " ++
    m.source.text

/-! ## Decoding -/

/-- A decoder of values that knows the place of the value. -/
abbrev Reading (α : Type) := List String → Value → Except Mismatch α

namespace Reading

def refuse {α : Type} (expected : String) : Reading α := fun path v =>
  .error ⟨.invalidType v.describe expected, path, v.source⟩

def string : Reading String
  | _, .scalar _ (.str s) => .ok s
  | path, v => refuse "a string" path v

def path : Reading String
  | _, .scalar _ (.str s) => .ok s
  | path, v => refuse "path string" path v

def bool : Reading Bool
  | _, .scalar _ (.bool b) => .ok b
  | path, v => refuse "a boolean" path v

/-- An integer from 0 to `2 ^ 64 - 1`. -/
def unsigned : Reading Nat
  | path, .scalar source (.int n signed) =>
    if 0 ≤ n then .ok n.toNat
    else
      .error ⟨.invalidValue (Value.describe (.scalar source (.int n signed))) "u64", path, source⟩
  | path, v => refuse "u64" path v

/-- A variant by its name. A table names it by its first key, under which nothing may stand. -/
def variant {α : Type} (type : String) (variants : List (String × α)) : Reading α
  | path, .scalar source (.str s) =>
    match variants.find? (·.1 == s) with
    | some (_, a) => .ok a
    | none => .error ⟨.unknownVariant s (variants.map (·.1)), path, source⟩
  | path, .table source ((name, v) :: _) =>
    match variants.find? (·.1 == name) with
    | some _ => refuse "unit" (path ++ [name]) v
    | none => .error ⟨.unknownVariant name (variants.map (·.1)), path, source⟩
  | path, .table source [] => refuse "enum" path (.table source [])
  | path, v => refuse type path v

/-- The members of a section. A list gives them in the order of their declaration. -/
def members (type : String) (names : List String) : Reading (Fields Value)
  | _, .table _ members => .ok members
  | _, .list _ items => .ok (Fields.ofList (names.zip items))
  | path, v => refuse type path v

/-- A member, or its default. -/
def get {α : Type} (members : Fields Value) (path : List String) (name : String) (r : Reading α)
    (unset : α) : Except Mismatch α :=
  match members.get? name with
  | some v => r (path ++ [name]) v
  | none => .ok unset

end Reading

end CloudGate.Settings
