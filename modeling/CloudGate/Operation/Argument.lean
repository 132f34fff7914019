import CloudGate.Rule.Resource
import CloudGate.Tool.Definition

/-!
Rules for one argument of a call, from rules for its value: required and optional arguments, texts,
integers and identifiers.
-/

namespace CloudGate.Operation

abbrev ArgumentRule := ToolCall → Verdict

/-- The rule sees the empty text when the argument is missing or no text. -/
def textual (key : String) (rule : String → Verdict) : ArgumentRule := fun call =>
  rule (call.text key)

/-- An argument that may be missing or null, but otherwise has to be a text that meets the rule. -/
def optionalText (key : String) (rule : String → Verdict) : ArgumentRule := fun call =>
  match call.get? key with
  | none | some .null => .pass
  | some (.str s) => rule s
  | some v => .fail .invalidFormat ("got " ++ v.render ++ ": " ++ key ++ " must be a string")

/-- A text that is not blank. -/
def notBlank (key : String) : ArgumentRule :=
  textual key fun s => if Text.isBlankText s then .error (.required key) else .pass

/-- An integer that has to be given. -/
def integer (key : String) (rule : Int → Verdict) : ArgumentRule := fun call =>
  match call.int? key with
  | .error v => .error v
  | .ok none => .error (.required key)
  | .ok (some n) => rule n

/-- An integer that may be missing. -/
def optionalInteger (key : String) (rule : Int → Verdict) : ArgumentRule := fun call =>
  match call.int? key with
  | .error v => .error v
  | .ok none => .pass
  | .ok (some n) => rule n

/-- The identifier of a resource. -/
def identifier (key : String) : ArgumentRule := integer key (Rule.resourceId key)

/-- The name of a region or cluster. -/
def region (key : String) : ArgumentRule := textual key (Rule.region key)

end CloudGate.Operation
