import CloudGate.Settings.Basic
import CloudGate.Settings.Value

/-!
Settings from the values of all layers. Members are looked at in order of their names, so of several
wrong values the first in this order is reported. Unknown members are ignored.
-/

namespace CloudGate.Settings

def Provider.read : Reading Provider := fun path v => do
  let unset : Provider := {}
  let m ← Reading.members "struct FileProviderConfig"
    ["api_url", "token_env", "token", "timeout_seconds"] path v
  let apiUrl ← Reading.get m path "api_url" .string unset.apiUrl
  let timeoutSeconds ← Reading.get m path "timeout_seconds" .unsigned unset.timeoutSeconds
  let token ← Reading.get m path "token" (fun p v => (Reading.string p v).map some) unset.token
  let tokenEnv ← Reading.get m path "token_env" .string unset.tokenEnv
  return { apiUrl, tokenEnv, token, timeoutSeconds }

def formatReading : Reading OutputFormat :=
  .variant "enum OutputFormat" (OutputFormat.all.map fun f => (f.name, f))

def Output.read : Reading Output := fun path v => do
  let m ← Reading.members "struct FileOutputConfig" ["format", "color"] path v
  let color ← Reading.get m path "color" .bool true
  let format ← Reading.get m path "format" (fun p v => (formatReading p v).map some) none
  return { format, color }

def Audit.read : Reading Audit := fun path v => do
  let m ← Reading.members "struct FileAuditConfig" ["enabled", "path"] path v
  let enabled ← Reading.get m path "enabled" .bool false
  let file ← Reading.get m path "path" (fun p v => (Reading.path p v).map some) none
  return { enabled, path := file }

def Logging.read : Reading Logging := fun path v => do
  let m ← Reading.members "struct FileLoggingConfig" ["file"] path v
  return { file := ← Reading.get m path "file" (fun p v => (Reading.path p v).map some) none }

/-- All settings of a merged table. -/
def ofMembers (m : Fields Value) : Except Mismatch Settings := do
  let audit ← Reading.get m [] "audit" Audit.read {}
  let logging ← Reading.get m [] "logging" Logging.read {}
  let output ← Reading.get m [] "output" Output.read {}
  let provider ← Reading.get m [] "provider" Provider.read {}
  return { provider, output, audit, logging }

end CloudGate.Settings
