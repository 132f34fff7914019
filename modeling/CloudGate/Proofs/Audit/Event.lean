import CloudGate.Audit.Event
import CloudGate.Proofs.Json.Basic

/-!
What an event of the audit trail tells: its type, the tool, the arguments and the error.

* `rejection_type`, `outcome_type`: the type by the error of the result.
* `rejection_told`, `outcome_told`: code and message of the error, as they stand in the result.
-/

namespace CloudGate

namespace Audit

/-- A part of the error that an event tells of. It stands in the payload itself if the call was not
sent, else in a member of the payload. -/
def Event.told? (e : Event) (key : String) : Option Json :=
  (e.payload.get? key).or ((e.payload.get? "error").bind (Json.get? key))

/-! ## Calls that were not sent -/

theorem rejection_type (t : Tool) (call : ToolCall) (e : ToolError) :
    (rejection t call e).type = if e.code = ToolError.confirmationRequired then "gate_refused"
      else "validation_rejected" := by
  unfold rejection
  by_cases h : e.code = ToolError.confirmationRequired
  · simp only [h, ↓reduceIte]
    rfl
  · simp only [h, ↓reduceIte]
    rfl

theorem rejection_tool (t : Tool) (call : ToolCall) (e : ToolError) :
    (rejection t call e).payload.get? "tool" = some (.str t.name) := by
  simp [rejection, subject, Json.get?_object]

theorem rejection_arguments (t : Tool) (call : ToolCall) (e : ToolError) :
    (rejection t call e).payload.get? "arguments" = some (.obj (redact call.arguments)) := by
  simp [rejection, subject, Json.get?_object]

theorem rejection_told (t : Tool) (call : ToolCall) (e : ToolError) :
    (rejection t call e).told? "code" = some (.str e.code) ∧
      (rejection t call e).told? "message" = some (.str e.message) := by
  simp [Event.told?, rejection, subject, Json.get?_object]

/-! ## Calls that were sent -/

theorem outcome_type (t : Tool) (call : ToolCall) (r : ToolResult) :
    (outcome t call r).type =
      if r.error.isNone then "operation_completed" else "operation_failed" := by
  unfold outcome
  cases r.error with
  | none => rfl
  | some e => rfl

theorem outcome_tool (t : Tool) (call : ToolCall) (r : ToolResult) :
    (outcome t call r).payload.get? "tool" = some (.str t.name) := by
  simp [outcome, subject, Json.get?_object]

theorem outcome_arguments (t : Tool) (call : ToolCall) (r : ToolResult) :
    (outcome t call r).payload.get? "arguments" = some (.obj (redact call.arguments)) := by
  simp [outcome, subject, Json.get?_object]

theorem outcome_told (t : Tool) (call : ToolCall) (r : ToolResult) :
    (outcome t call r).told? "code" = r.error.map (fun e => .str e.code) ∧
      (outcome t call r).told? "message" = r.error.map fun e => .str e.message := by
  cases h : r.error with
  | none =>
    have hnull : ∀ key, Json.get? key .null = none := fun _ => rfl
    simp [Event.told?, outcome, subject, Json.get?_object, h, hnull]
  | some e => simp [Event.told?, outcome, subject, Json.get?_object, h]

end Audit

end CloudGate
