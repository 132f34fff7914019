import CloudGate.Tool.Outcome

/-!
Failures of the way to the provider, and the tool errors that they become.
-/

namespace CloudGate.Gateway

inductive Failure
  | missingToken
  | unauthorized (reason : String)
  | notFound (path : String)
  | connection (reason : String)
  | requestFailed (status : Nat) (reason : String)
  | invalidResponse (reason : String)
  | unsupported (reason : String)
  | timeout
  deriving DecidableEq, Repr

namespace Failure

def message : Failure → String
  | .missingToken =>
    "No API token configured (set provider.token or CLOUDOPS_PROVIDER__TOKEN)"
  | .unauthorized reason => "Authentication failed: " ++ reason
  | .notFound path => "Not found: " ++ path
  | .connection reason => "Connection error: " ++ reason
  | .requestFailed status reason => "Request failed (" ++ toString status ++ "): " ++ reason
  | .invalidResponse reason => "Invalid response: " ++ reason
  | .unsupported reason => "Unsupported operation: " ++ reason
  | .timeout => "Timeout"

def toToolError (f : Failure) : ToolError :=
  match f with
  | .notFound _ => { code := ToolError.notFound, message := f.message }
  | .timeout => ToolError.timedOut "provider request"
  | .requestFailed status _ =>
    { ToolError.failed f.message with details := some (toString status) }
  | _ => ToolError.failed f.message

end Failure

end CloudGate.Gateway
