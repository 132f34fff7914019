import CloudGate.Filter
import CloudGate.Tool.Call

/-!
Definitions of tools: parameters, classifications, filters and the rules for arguments.
-/

namespace CloudGate

structure Parameter where
  name : String
  description : String
  required : Bool
  type : String
  deriving DecidableEq, Repr

/-- An argument of a list tool that filters by a field of the listed items. -/
structure FilterField where
  param : String
  field : String
  mode : MatchMode
  deriving DecidableEq, Repr

/-- The rules for the arguments of an operation, in the order of their application. -/
structure ArgumentRules where
  operation : String
  rules : List (ToolCall → Verdict)

/-- Applies the rules up to the first violation. -/
def ArgumentRules.check (r : ArgumentRules) (call : ToolCall) : Verdict :=
  r.rules.forM fun rule => rule call

structure Tool where
  name : String
  description : String
  classifications : List Classification := []
  parameters : List Parameter := []
  filters : List FilterField := []
  rules : Option ArgumentRules := none

def MatchMode.description : MatchMode → String
  | .exact => "Only return items whose value equals this (case-insensitive)"
  | .contains => "Only return items whose value contains this (case-insensitive)"

namespace Tool

def isGated (t : Tool) : Bool := !t.classifications.isEmpty

def isList (t : Tool) : Bool := !t.filters.isEmpty

def hasParameter (t : Tool) (name : String) : Bool := t.parameters.any (·.name == name)

def addParameter (t : Tool) (p : Parameter) : Tool := { t with parameters := t.parameters ++ [p] }

/-- The parameter that gives consent. -/
def confirmParameter : Parameter :=
  { name := Gate.confirmName
    description := "Must be true to acknowledge the consequences of this operation"
    required := false
    type := "boolean" }

/-- Puts the tool behind the gate, and sees to it that consent can be given. -/
def addClassification (t : Tool) (c : Classification) : Tool :=
  let t :=
    if t.classifications.contains c then t
    else { t with classifications := t.classifications ++ [c] }
  if t.hasParameter Gate.confirmName then t else t.addParameter confirmParameter

/-- Adds a filter and the optional parameter that gives its query. -/
def addFilter (t : Tool) (param field : String) (mode : MatchMode) : Tool :=
  { t.addParameter { name := param, description := mode.description, required := false,
                     type := "string" } with
    filters := t.filters ++ [{ param, field, mode }] }

def setRules (t : Tool) (rules : ArgumentRules) : Tool := { t with rules := some rules }

/-- The filters that a call asks for. -/
def filtersFor (t : Tool) (call : ToolCall) : List FieldFilter :=
  t.filters.filterMap fun f => FieldFilter.ofQuery? f.field (call.text f.param) f.mode

/-- The argument rules, or none to break. -/
def checkRules (t : Tool) (call : ToolCall) : Verdict :=
  match t.rules with
  | some r => r.check call
  | none => .pass

/-- The shape of the arguments: nothing required is missing, and nothing is unknown. List tools
tolerate unknown arguments. -/
def checkShape (t : Tool) (call : ToolCall) : Verdict :=
  match t.parameters.find? fun p => p.required && !call.arguments.contains p.name with
  | some p => .error (.required p.name)
  | none =>
    if t.isList then .pass
    else
      match call.arguments.names.find? fun n => !t.hasParameter n with
      | some n =>
        .fail .invalidFormat ("unknown parameter '" ++ n ++ "' for tool '" ++ t.name ++ "'")
      | none => .pass

end Tool

end CloudGate
