import CloudGate.Gateway.Failure
import CloudGate.Log
import CloudGate.Tool.Call

/-!
Gateways: what answers the calls that passed all checks.
-/

namespace CloudGate

/-- The answer of a gateway: what it is, when it comes, the time that the stopwatch shows for it,
and the messages on the way. -/
structure Gateway.Reply where
  outcome : Except Gateway.Failure Json
  afterMs : Nat := 0
  measuredMs : Nat := 0
  log : Log := []

/-- A gateway answers calls under the canonical names of their operations. -/
abbrev Gateway := String → ToolCall → Gateway.Reply

end CloudGate
