/-!
Problems found in settings. Errors forbid to go on, warnings do not.
-/

namespace CloudGate.Settings

inductive Severity
  | error
  | warning
  deriving DecidableEq, Repr

def Severity.name : Severity → String
  | .error => "Error"
  | .warning => "Warning"

inductive IssueCode
  | insecureApiUrl
  | invalidApiUrl
  | zeroTimeout
  | auditPathMissing
  deriving DecidableEq, Repr

def IssueCode.name : IssueCode → String
  | .insecureApiUrl => "InsecureApiUrl"
  | .invalidApiUrl => "InvalidApiUrl"
  | .zeroTimeout => "ZeroTimeout"
  | .auditPathMissing => "AuditPathMissing"

structure Issue where
  severity : Severity
  code : IssueCode
  message : String
  deriving DecidableEq, Repr

def Issue.isError (i : Issue) : Bool := i.severity == .error

end CloudGate.Settings
