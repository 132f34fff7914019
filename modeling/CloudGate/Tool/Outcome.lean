import CloudGate.Gate
import CloudGate.Json.Basic
import CloudGate.Rule.Violation

/-!
What a call comes to: a success with or without output, or an error with a code that tells the
caller what to mend, and in both cases some measurements.
-/

namespace CloudGate

structure ToolError where
  code : String
  message : String
  details : Option String := none
  deriving DecidableEq, Repr

namespace ToolError

def confirmationRequired : String := "CONFIRMATION_REQUIRED"

def invalidArgument : String := "INVALID_ARGUMENT"

def notFound : String := "NOT_FOUND"

def executionFailed : String := "EXECUTION_FAILED"

def timeout : String := "TIMEOUT"

def unknownTool (name : String) : ToolError :=
  { code := notFound, message := "Unknown tool: " ++ name }

def failed (message : String) : ToolError := { code := executionFailed, message }

def timedOut (operation : String) : ToolError :=
  { code := timeout, message := "Operation timed out: " ++ operation }

/-- The details name the classifications. -/
def ofRefusal (r : Gate.Refusal) : ToolError :=
  { code := confirmationRequired
    message := r.message
    details := some (",".intercalate (r.classifications.map (·.name))) }

/-- The details name the kind of the violation. -/
def ofViolation (v : Violation) : ToolError :=
  { code := invalidArgument, message := v.message, details := some v.kind.name }

/-- The error on one line. -/
def line (e : ToolError) : String :=
  "[" ++ e.code ++ "] " ++ e.message ++
    match e.details with
    | some d => " (" ++ d ++ ")"
    | none => ""

end ToolError

/-- Duration in milliseconds, items before and after filtering, and whether nothing was sent. -/
structure Measures where
  durationMs : Option Nat := none
  totalItems : Option Nat := none
  returnedItems : Option Nat := none
  dryRun : Bool := false
  deriving DecidableEq, Repr

structure ToolResult where
  tool : String
  success : Bool
  output : Option Json
  error : Option ToolError
  measures : Measures := {}

namespace ToolResult

def succeeded (tool : String) (output : Json) : ToolResult :=
  { tool, success := true, output := some output, error := none }

/-- A call that would be sent, but was only checked. -/
def checked (tool : String) : ToolResult :=
  { tool, success := true, output := none, error := none, measures := { dryRun := true } }

def failed (tool : String) (error : ToolError) : ToolResult :=
  { tool, success := false, output := none, error := some error }

def withDuration (r : ToolResult) (ms : Nat) : ToolResult :=
  { r with measures := { r.measures with durationMs := some ms } }

def withCounts (r : ToolResult) (total returned : Nat) : ToolResult :=
  { r with
    measures := { r.measures with totalItems := some total, returnedItems := some returned } }

end ToolResult

end CloudGate
