import CloudGate.Json.Decode
import CloudGate.Settings.Basic
import CloudGate.Toml.Quoted

/-!
Settings as JSON values, written and read, and as a TOML document, which is how they are shown. What
is left out of a value keeps its default.
-/

namespace CloudGate.Settings

namespace Provider

def toJson (p : Provider) : Json :=
  .object [("api_url", .str p.apiUrl), ("token_env", .str p.tokenEnv),
    ("token", Json.ofOption .str p.token), ("timeout_seconds", .nat p.timeoutSeconds)]

def fields : List Json.Field :=
  [Json.field "api_url" .omitted Json.Decoder.string,
   Json.field "token_env" .omitted Json.Decoder.string,
   Json.field "token" .omitted (Json.Decoder.optional .string),
   Json.field "timeout_seconds" .omitted (Json.Decoder.unsigned "u64")]

def decode : Json.Decoder Provider := fun v => do
  let taken ← Json.Record.members "struct FileProviderConfig" fields v
  let unset : Provider := {}
  return {
    apiUrl := ← Json.Record.get taken "api_url" .string unset.apiUrl
    tokenEnv := ← Json.Record.get taken "token_env" .string unset.tokenEnv
    token := ← Json.Record.get taken "token" (.optional .string) unset.token
    timeoutSeconds :=
      ← Json.Record.get taken "timeout_seconds" (.unsigned "u64") unset.timeoutSeconds }

end Provider

namespace Output

def toJson (o : Output) : Json :=
  .object [("format", Json.ofOption (fun f => .str f.name) o.format), ("color", .bool o.color)]

def fields : List Json.Field :=
  [Json.field "format" .omitted (Json.Decoder.optional OutputFormat.decode),
   Json.field "color" .omitted Json.Decoder.bool]

def decode : Json.Decoder Output := fun v => do
  let taken ← Json.Record.members "struct FileOutputConfig" fields v
  return {
    format := ← Json.Record.get taken "format" (.optional OutputFormat.decode) none
    color := ← Json.Record.get taken "color" .bool true }

end Output

namespace Audit

def toJson (a : Audit) : Json :=
  .object [("enabled", .bool a.enabled), ("path", Json.ofOption .str a.path)]

def fields : List Json.Field :=
  [Json.field "enabled" .omitted Json.Decoder.bool,
   Json.field "path" .omitted (Json.Decoder.optional .path)]

def decode : Json.Decoder Audit := fun v => do
  let taken ← Json.Record.members "struct FileAuditConfig" fields v
  return {
    enabled := ← Json.Record.get taken "enabled" .bool false
    path := ← Json.Record.get taken "path" (.optional .path) none }

end Audit

namespace Logging

def toJson (l : Logging) : Json := .object [("file", Json.ofOption .str l.file)]

def fields : List Json.Field := [Json.field "file" .omitted (Json.Decoder.optional .path)]

def decode : Json.Decoder Logging := fun v => do
  let taken ← Json.Record.members "struct FileLoggingConfig" fields v
  return { file := ← Json.Record.get taken "file" (.optional .path) none }

end Logging

def toJson (s : Settings) : Json :=
  .object [("provider", s.provider.toJson), ("output", s.output.toJson),
    ("audit", s.audit.toJson), ("logging", s.logging.toJson)]

def fields : List Json.Field :=
  [Json.field "provider" .omitted Provider.decode,
   Json.field "output" .omitted Output.decode,
   Json.field "audit" .omitted Audit.decode,
   Json.field "logging" .omitted Logging.decode]

def decode : Json.Decoder Settings := fun v => do
  let taken ← Json.Record.members "struct FileConfig" fields v
  return {
    provider := ← Json.Record.get taken "provider" Provider.decode {}
    output := ← Json.Record.get taken "output" Output.decode {}
    audit := ← Json.Record.get taken "audit" Audit.decode {}
    logging := ← Json.Record.get taken "logging" Logging.decode {} }

/-! ## The TOML document -/

def line (key value : String) : String := key ++ " = " ++ value ++ "\n"

def textLine (key value : String) : String := line key (Toml.renderText value)

def optionalLine (key : String) : Option String → String
  | some value => textLine key value
  | none => ""

def boolLine (key : String) (b : Bool) : String := line key (if b then "true" else "false")

/-- The sections with a line for every setting that is set. TOML has no integers beyond 64 bits with
sign. -/
def toToml? (s : Settings) : Option String :=
  if fitsInt64 s.provider.timeoutSeconds then
    some <| "\n".intercalate
      ["[provider]\n" ++ textLine "api_url" s.provider.apiUrl ++
         textLine "token_env" s.provider.tokenEnv ++ optionalLine "token" s.provider.token ++
         line "timeout_seconds" (toString s.provider.timeoutSeconds),
       "[output]\n" ++ optionalLine "format" (s.output.format.map (·.name)) ++
         boolLine "color" s.output.color,
       "[audit]\n" ++ boolLine "enabled" s.audit.enabled ++ optionalLine "path" s.audit.path,
       "[logging]\n" ++ optionalLine "file" s.logging.file]
  else none

end CloudGate.Settings
