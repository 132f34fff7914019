import CloudGate.Net.Url
import CloudGate.Settings.Issue
import CloudGate.Settings.OutputFormat
import CloudGate.Text.Blank
import CloudGate.Text.Secret

/-!
The settings of the program, their defaults, and the problems that they may have.
-/

namespace CloudGate

/-- Where the provider is, and the token for it: the one in the variable that `tokenEnv` names, or
else the one given here. -/
structure Settings.Provider where
  apiUrl : String := "https://api.linode.com/v4"
  tokenEnv : String := "LINODE_TOKEN"
  token : Option String := none
  timeoutSeconds : Nat := 30
  deriving DecidableEq, Repr

structure Settings.Output where
  format : Option OutputFormat := none
  color : Bool := true
  deriving DecidableEq, Repr

structure Settings.Audit where
  enabled : Bool := false
  path : Option String := none
  deriving DecidableEq, Repr

structure Settings.Logging where
  file : Option String := none
  deriving DecidableEq, Repr

structure Settings where
  provider : Settings.Provider := {}
  output : Settings.Output := {}
  audit : Settings.Audit := {}
  logging : Settings.Logging := {}
  deriving DecidableEq, Repr

namespace Settings

/-- Variables of the environment. -/
abbrev Environment := Fields String

/-- The token for requests. A blank token counts as none. -/
def Provider.resolveToken (p : Provider) (env : Environment) : Option String :=
  let given : Option String := if p.tokenEnv.isEmpty then none else env.get? p.tokenEnv
  let isPresent (t : String) : Bool := !Text.isBlankText t
  (given.filter isPresent).or (p.token.filter isPresent)

/-- Only addresses of the web will do, and those without encryption with a warning. -/
def Provider.urlIssues (p : Provider) : List Issue :=
  match Net.Url.parse p.apiUrl with
  | .ok url =>
    if url.scheme = "https" then []
    else if url.scheme = "http" then
      [{ severity := .warning
         code := .insecureApiUrl
         message := "provider.api_url '" ++ p.apiUrl ++
           "' is not https; the API token is sent in clear text" }]
    else
      [{ severity := .error
         code := .invalidApiUrl
         message := "provider.api_url: unsupported scheme '" ++ url.scheme ++ "'" }]
  | .error fault =>
    [{ severity := .error
       code := .invalidApiUrl
       message := "provider.api_url '" ++ p.apiUrl ++ "' is not a valid URL: " ++ fault.message }]

def Provider.issues (p : Provider) : List Issue :=
  p.urlIssues ++
    if p.timeoutSeconds = 0 then
      [{ severity := .error
         code := .zeroTimeout
         message := "provider.timeout_seconds cannot be 0" }]
    else []

/-- The path of the audit trail, if there is to be one. -/
def Audit.activePath (a : Audit) : Option String :=
  if a.enabled then a.path.filter (· != "") else none

def Audit.issues (a : Audit) : List Issue :=
  if a.enabled && a.activePath.isNone then
    [{ severity := .error
       code := .auditPathMissing
       message := "audit.enabled is true but audit.path is not set" }]
  else []

def issues (s : Settings) : List Issue := s.provider.issues ++ s.audit.issues

/-- The settings as they may be shown. -/
def redacted (s : Settings) : Settings :=
  { s with provider := { s.provider with token := s.provider.token.map Text.mask } }

end Settings

end CloudGate
