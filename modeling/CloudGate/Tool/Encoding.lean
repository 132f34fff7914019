import CloudGate.Json.Decode
import CloudGate.Tool.Definition
import CloudGate.Tool.Outcome

/-!
Tools and results as JSON values, written and read. The form of a result keeps its fields in the
order of their declaration when it is printed.
-/

namespace CloudGate

def Violation.Kind.decode : Json.Decoder Violation.Kind :=
  .variant (Violation.Kind.all.map fun k => (k.name, k))

def Classification.decode : Json.Decoder Classification :=
  .variant (Classification.all.map fun c => (c.name, c))

def MatchMode.decode : Json.Decoder MatchMode := .variant (MatchMode.all.map fun m => (m.name, m))

namespace Parameter

def toJson (p : Parameter) : Json :=
  .object [("name", .str p.name), ("description", .str p.description),
    ("required", .bool p.required), ("param_type", .str p.type)]

def fields : List Json.Field :=
  [Json.field "name" .required Json.Decoder.string,
   Json.field "description" .required Json.Decoder.string,
   Json.field "required" .required Json.Decoder.bool,
   Json.field "param_type" .required Json.Decoder.string]

def decode : Json.Decoder Parameter := fun v => do
  let taken ← Json.Record.members "struct ToolParameter" fields v
  return {
    name := ← Json.Record.get taken "name" .string ""
    description := ← Json.Record.get taken "description" .string ""
    required := ← Json.Record.get taken "required" .bool false
    type := ← Json.Record.get taken "param_type" .string "" }

end Parameter

namespace FilterField

def toJson (f : FilterField) : Json :=
  .object [("param", .str f.param), ("field", .str f.field), ("mode", .str f.mode.name)]

def fields : List Json.Field :=
  [Json.field "param" .required Json.Decoder.string,
   Json.field "field" .required Json.Decoder.string,
   Json.field "mode" .required MatchMode.decode]

def decode : Json.Decoder FilterField := fun v => do
  let taken ← Json.Record.members "struct FilterField" fields v
  return {
    param := ← Json.Record.get taken "param" .string ""
    field := ← Json.Record.get taken "field" .string ""
    mode := ← Json.Record.get taken "mode" MatchMode.decode .exact }

end FilterField

namespace Tool

def toJson (t : Tool) : Json :=
  .object [("name", .str t.name), ("description", .str t.description),
    ("classifications", .strings (t.classifications.map (·.name))),
    ("parameters", .arr (t.parameters.map (·.toJson))),
    ("filters", .arr (t.filters.map (·.toJson)))]

def fields : List Json.Field :=
  [Json.field "name" .required Json.Decoder.string,
   Json.field "description" .required Json.Decoder.string,
   Json.field "classifications" .omitted (Json.Decoder.list Classification.decode),
   Json.field "parameters" .required (Json.Decoder.list Parameter.decode),
   Json.field "filters" .omitted (Json.Decoder.list FilterField.decode)]

/-- The rules for arguments are code and are not written. -/
def decode : Json.Decoder Tool := fun v => do
  let taken ← Json.Record.members "struct ToolDefinition" fields v
  return {
    name := ← Json.Record.get taken "name" .string ""
    description := ← Json.Record.get taken "description" .string ""
    classifications := ← Json.Record.get taken "classifications" (.list Classification.decode) []
    parameters := ← Json.Record.get taken "parameters" (.list Parameter.decode) []
    filters := ← Json.Record.get taken "filters" (.list FilterField.decode) [] }

end Tool

namespace ToolError

/-- The members in the order of their declaration, without missing details. -/
def members (e : ToolError) : List (String × Json) :=
  [("code", .str e.code), ("message", .str e.message)] ++
    match e.details with
    | some d => [("details", .str d)]
    | none => []

def toJson (e : ToolError) : Json := .object e.members

def fields : List Json.Field :=
  [Json.field "code" .required Json.Decoder.string,
   Json.field "message" .required Json.Decoder.string,
   Json.field "details" .omittedInObject (Json.Decoder.optional .string)]

def decode : Json.Decoder ToolError := fun v => do
  let taken ← Json.Record.members "struct ToolError" fields v
  return {
    code := ← Json.Record.get taken "code" .string ""
    message := ← Json.Record.get taken "message" .string ""
    details := ← Json.Record.get taken "details" (.optional .string) none }

end ToolError

namespace Measures

/-- The members in the order of their declaration, without what was not measured. -/
def members (m : Measures) : List (String × Json) :=
  let count (name : String) : Option Nat → List (String × Json)
    | some n => [(name, .nat n)]
    | none => []
  count "duration_ms" m.durationMs ++ count "total_items" m.totalItems ++
    count "returned_items" m.returnedItems ++
    if m.dryRun then [("dry_run", .bool true)] else []

def fields : List Json.Field :=
  [Json.field "duration_ms" .omittedInObject (Json.Decoder.optional (.unsigned "u64")),
   Json.field "total_items" .omittedInObject (Json.Decoder.optional (.unsigned "usize")),
   Json.field "returned_items" .omittedInObject (Json.Decoder.optional (.unsigned "usize")),
   Json.field "dry_run" .omitted Json.Decoder.bool]

def decode : Json.Decoder Measures := fun v => do
  let taken ← Json.Record.members "struct ToolResultMetadata" fields v
  return {
    durationMs := ← Json.Record.get taken "duration_ms" (.optional (.unsigned "u64")) none
    totalItems := ← Json.Record.get taken "total_items" (.optional (.unsigned "usize")) none
    returnedItems := ← Json.Record.get taken "returned_items" (.optional (.unsigned "usize")) none
    dryRun := ← Json.Record.get taken "dry_run" .bool false }

end Measures

namespace ToolResult

/-- The members in the order of their declaration, without missing output and error. -/
def members (r : ToolResult) : List (String × Json) :=
  [("tool_name", .str r.tool), ("success", .bool r.success)] ++
    (match r.output with
     | some v => [("output", v)]
     | none => []) ++
    (match r.error with
     | some e => [("error", .obj e.members)]
     | none => []) ++
    [("metadata", .obj r.measures.members)]

/-- The result as a value, whose members are in order of their names. -/
def toJson (r : ToolResult) : Json :=
  .object
    ([("tool_name", .str r.tool), ("success", .bool r.success),
      ("metadata", .object r.measures.members)] ++
      (match r.output with
       | some v => [("output", v)]
       | none => []) ++
      match r.error with
      | some e => [("error", e.toJson)]
      | none => [])

def fields : List Json.Field :=
  [Json.field "tool_name" .required Json.Decoder.string,
   Json.field "success" .required Json.Decoder.bool,
   Json.field "output" .omittedInObject (Json.Decoder.optional .any),
   Json.field "error" .omittedInObject (Json.Decoder.optional ToolError.decode),
   Json.field "metadata" .omitted Measures.decode]

def decode : Json.Decoder ToolResult := fun v => do
  let taken ← Json.Record.members "struct ToolResult" fields v
  return {
    tool := ← Json.Record.get taken "tool_name" .string ""
    success := ← Json.Record.get taken "success" .bool false
    output := ← Json.Record.get taken "output" (.optional .any) none
    error := ← Json.Record.get taken "error" (.optional ToolError.decode) none
    measures := ← Json.Record.get taken "metadata" Measures.decode {} }

end ToolResult

end CloudGate
