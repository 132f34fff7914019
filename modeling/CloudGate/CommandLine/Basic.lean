import CloudGate.Json.Reader
import CloudGate.Settings.OutputFormat
import CloudGate.Tool.Call

/-!
What a command line asks for.
-/

namespace CloudGate

namespace CommandLine

/-- A call as it is written on a command line: the arguments are text, and consent may be given
beside them. -/
structure CallRequest where
  tool : String
  args : Option String := none
  confirm : Bool := false
  deriving DecidableEq, Repr

/-- Why arguments are no arguments. -/
inductive ArgsFault
  | notJson (text : String) (fault : Json.Fault)
  | notObject (v : Json)

def ArgsFault.message : ArgsFault → String
  | .notJson text fault => "--args is not valid JSON: " ++ fault.message text.toList
  | .notObject v => "--args must be a JSON object, got " ++ v.render

/-- Reads arguments. Blank text holds none. -/
def readArgs (text : String) : Except ArgsFault (Fields Json) :=
  if Text.isBlankText text then .ok []
  else
    match Json.parse text with
    | .ok (.obj members) => .ok members
    | .ok v => .error (.notObject v)
    | .error fault => .error (.notJson text fault)

/-- The call that is asked for. Consent beside the arguments wins over what stands among them. -/
def CallRequest.toCall (r : CallRequest) : Except ArgsFault ToolCall :=
  (readArgs (r.args.getD "")).map fun arguments =>
    { tool := r.tool
      arguments :=
        if r.confirm then Fields.insert arguments Gate.confirmName (.bool true) else arguments }

inductive Command
  | tools (schema readOnly : Bool)
  | check (request : CallRequest)
  | call (request : CallRequest) (dryRun : Bool)
  deriving DecidableEq, Repr

end CommandLine

structure CommandLine where
  command : Option CommandLine.Command := none
  output : Option OutputFormat := none
  verbosity : Nat := 0
  quiet : Bool := false
  config : Option String := none
  noConfig : Bool := false
  showConfig : Bool := false
  deriving DecidableEq, Repr

end CloudGate
