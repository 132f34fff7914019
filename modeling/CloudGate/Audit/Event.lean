import CloudGate.Text.Secret
import CloudGate.Tool.Definition
import CloudGate.Tool.Outcome

/-!
Events of the audit trail. Every call of a gated tool leaves exactly one, which tells what became of
the call and shows its arguments without the secrets.
-/

namespace CloudGate.Audit

structure Event where
  type : String
  payload : Json

/-- What became of a call. -/
inductive Fate
  | refused
  | rejected
  | completed
  | failed
  deriving DecidableEq, Repr

def Fate.name : Fate → String
  | .refused => "gate_refused"
  | .rejected => "validation_rejected"
  | .completed => "operation_completed"
  | .failed => "operation_failed"

/-- Masks the texts of secret arguments. -/
def redact (arguments : Fields Json) : Fields Json :=
  arguments.mapValues fun name v =>
    match v with
    | .str s => if Text.isSecretName name then .str (Text.mask s) else .str s
    | _ => v

/-- What all events tell: the tool, why it is gated, and the arguments. -/
def subject (t : Tool) (call : ToolCall) : List (String × Json) :=
  [("tool", .str t.name), ("classifications", .strings (t.classifications.map (·.name))),
   ("arguments", .obj (redact call.arguments))]

/-- The event of a call that was not sent. -/
def rejection (t : Tool) (call : ToolCall) (e : ToolError) : Event :=
  let fate : Fate := if e.code = ToolError.confirmationRequired then .refused else .rejected
  { type := fate.name
    payload := .object <| subject t call ++
      [("code", .str e.code), ("details", Json.ofOption .str e.details),
       ("message", .str e.message)] }

/-- The event of a call that was sent. -/
def outcome (t : Tool) (call : ToolCall) (r : ToolResult) : Event :=
  let fate : Fate := if r.error.isNone then .completed else .failed
  let error : Json :=
    match r.error with
    | none => .null
    | some e => .object [("code", .str e.code), ("message", .str e.message)]
  { type := fate.name
    payload := .object <| subject t call ++
      [("duration_ms", Json.ofOption .nat r.measures.durationMs), ("error", error)] }

end CloudGate.Audit
