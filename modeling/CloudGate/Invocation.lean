import CloudGate.Audit.Event
import CloudGate.Gateway.Basic
import CloudGate.Text.Shorten
import CloudGate.Tool.Registry

/-!
The way of a call: find the tool, pass the gate, check the shape and the rules of the arguments,
send the call to the provider, and filter what a list tool gets back. The first stage that fails
decides the result, and nothing after it happens.
-/

namespace CloudGate

/-- What is shown while a call is under way. -/
inductive Progress
  | dispatched (tool : String)
  | completed (tool : String) (success : Bool)
  deriving DecidableEq, Repr

/-- Everything that a call brings about. -/
structure Invocation where
  result : ToolResult
  dispatched : List (String × ToolCall) := []
  progress : List Progress := []
  audit : List Audit.Event := []
  log : Log := []

namespace Invocation

/-- A limit of zero seconds is no limit. -/
def limitOfSeconds (seconds : Option Nat) : Option Nat :=
  (seconds.filter (0 < ·)).map (· * 1000)

/-- Gate, shape and rules, in this order. -/
def screen (t : Tool) (call : ToolCall) : Except ToolError Unit := do
  (Gate.pass call.isConfirmed t.classifications).mapError ToolError.ofRefusal
  (t.checkShape call).mapError ToolError.ofViolation
  (t.checkRules call).mapError ToolError.ofViolation

/-- The call as it is sent: under the canonical name and without the consent. -/
def request (t : Tool) (call : ToolCall) : ToolCall :=
  { tool := t.name, arguments := call.arguments.erase Gate.confirmName }

/-- A short text that tells calls apart: a name if there is one, else the first text argument that
is no secret. -/
def preview (call : ToolCall) : String :=
  let named := ["label", "domain", "name"].findSome? call.string?
  let other := call.arguments.findSome? fun (n, v) =>
    if Text.isSecretName n then none else v.str?
  match named.or other with
  | some s => Text.shorten s 50
  | none => ""

/-- An answer that comes too late is a timeout. -/
def isLate (limitMs : Option Nat) (reply : Gateway.Reply) : Bool := limitMs.any (· < reply.afterMs)

def settle (limitMs : Option Nat) (reply : Gateway.Reply) : Except Gateway.Failure Json :=
  if isLate limitMs reply then .error .timeout else reply.outcome

/-- The items of a list answer: a list, or an object with a list under `data`. -/
def itemsOf (response : Json) : Except ToolError (List Json) :=
  match response with
  | .arr items => .ok items
  | .obj members =>
    match Fields.get? members "data" with
    | some (.arr items) => .ok items
    | _ => .error (ToolError.failed "provider returned an object without a data list")
  | v => .error (ToolError.failed ("expected a list, got " ++ v.render))

def filterList (t : Tool) (call : ToolCall) (response : Json) : ToolResult :=
  match itemsOf response with
  | .error e => .failed t.name e
  | .ok items =>
    let kept := FilterSet.keep (t.filtersFor call) items
    (ToolResult.succeeded t.name (.arr kept)).withCounts items.length kept.length

def filterLog (t : Tool) (call : ToolCall) (response : Json) : Log :=
  match itemsOf response with
  | .error _ => []
  | .ok items =>
    let filters := t.filtersFor call
    [⟨.debug, t.name ++ ": " ++ toString filters.length ++ " filter(s) kept " ++
      toString (FilterSet.keep filters items).length ++ " of " ++ toString items.length ++
      " item(s)"⟩]

/-- The result of a call that was sent, but for its duration. -/
def resultOf (t : Tool) (call : ToolCall) : Except Gateway.Failure Json → ToolResult
  | .ok response =>
    if t.isList then filterList t call response else .succeeded t.name response
  | .error f => .failed t.name f.toToolError

def resultLog (t : Tool) (call : ToolCall) (durationMs : Nat) : Except Gateway.Failure Json → Log
  | .ok response => if t.isList then filterLog t call response else []
  | .error f =>
    [⟨.warn, "Tool " ++ t.name ++ " failed after " ++ toString durationMs ++ "ms: " ++ f.message⟩]

/-- The message about a name that is an alias. -/
def aliasLog (t : Tool) (call : ToolCall) : Log :=
  if t.name = call.tool then []
  else [⟨.debug, "Resolved alias '" ++ call.tool ++ "' -> '" ++ t.name ++ "'"⟩]

/-- A call that names no tool. -/
def unknown (call : ToolCall) : Invocation :=
  { result := .failed call.tool (ToolError.unknownTool call.tool)
    log := [⟨.warn, "Unknown tool '" ++ call.tool ++ "'"⟩] }

/-- A call that does not pass the checks. -/
def rejected (t : Tool) (call : ToolCall) (e : ToolError) : Invocation :=
  { result := .failed t.name e
    audit := if t.isGated then [Audit.rejection t call e] else []
    log := aliasLog t call ++ [⟨.warn, "Tool " ++ t.name ++ " rejected: " ++ e.line⟩] }

/-- A call that was sent, and the answer to it. -/
def sent (t : Tool) (call : ToolCall) (limitMs : Option Nat) (reply : Gateway.Reply) :
    Invocation :=
  let outcome := settle limitMs reply
  let result := (resultOf t call outcome).withDuration reply.measuredMs
  { result
    dispatched := [(t.name, request t call)]
    progress := [.dispatched t.name, .completed t.name outcome.toBool]
    audit := if t.isGated then [Audit.outcome t call result] else []
    log := aliasLog t call ++ [⟨.info, "Dispatching " ++ t.name ++ " (" ++ preview call ++ ")"⟩] ++
      (if isLate limitMs reply then [] else reply.log) ++
      resultLog t call reply.measuredMs outcome }

end Invocation

namespace Registry

/-- Runs a call all the way. -/
def invoke (r : Registry) (limitMs : Option Nat) (gateway : Gateway) (call : ToolCall) :
    Invocation :=
  match r.find? call.tool with
  | none => .unknown call
  | some t =>
    match Invocation.screen t call with
    | .error e => .rejected t call e
    | .ok () => .sent t call limitMs (gateway t.name (Invocation.request t call))

/-- Runs the checks only. -/
def check (r : Registry) (call : ToolCall) : ToolResult :=
  match r.find? call.tool with
  | none => .failed call.tool (ToolError.unknownTool call.tool)
  | some t =>
    match Invocation.screen t call with
    | .error e => .failed t.name e
    | .ok () => .checked t.name

def checkLog (r : Registry) (call : ToolCall) : Log :=
  match r.find? call.tool with
  | none => []
  | some t => Invocation.aliasLog t call

end Registry

end CloudGate
