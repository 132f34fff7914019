import CloudGate.Gateway.Failure
import CloudGate.Operation.Grant
import CloudGate.Request.Route
import CloudGate.Text.Percent
import CloudGate.Text.Split

/-!
Requests that are ready to be sent. The arguments of a call fill the places of the path; with
methods that have a body, the others go into the body.
-/

namespace CloudGate.Request

structure Prepared where
  method : Method
  path : String
  body : Option Json

/-- Names that end in `_id` stand for integers. -/
def isIdentifierName (name : String) : Bool := "_id".toList.isSuffixOf name.toList

/-- The text that a value gives for a place of the path: a text that is not empty, or a number. -/
def segmentText? : Option Json → Option String
  | some (.str s) => if s.isEmpty then none else some s
  | some (.num n) => some n.render
  | _ => none

/-- The segment for an argument: an integer for an identifier, else any text but those that stand
for directories, percent-encoded. -/
def fillArgument (name : String) (value : Option Json) : Except Gateway.Failure String :=
  let invalid (why : String) : Except Gateway.Failure String :=
    .error (.unsupported (name ++ " " ++ why))
  match segmentText? value with
  | none => invalid "is required in the path"
  | some text =>
    if isIdentifierName name then
      match parseInt64? (Text.trimChars text.toList) with
      | some n => .ok (toString n)
      | none => invalid "must be an integer"
    else if text = "." ∨ text = ".." then invalid "is not a valid path segment"
    else .ok (String.ofList (Text.percentEncode text.toList))

/-- Fills a path and takes the arguments that it uses. -/
def fillPath : List Segment → Fields Json → Except Gateway.Failure (List String × Fields Json)
  | [], arguments => .ok ([], arguments)
  | .literal text :: rest, arguments => do
    let (segments, left) ← fillPath rest arguments
    .ok (text :: segments, left)
  | .argument name :: rest, arguments => do
    let segment ← fillArgument name (arguments.get? name)
    let (segments, left) ← fillPath rest (arguments.erase name)
    .ok (segment :: segments, left)

/-- Fills the places that a scan finds in the text of a template, from the left. Every place is
closed by the first brace behind it; an open place makes the template useless. -/
def fillText (template : String) (rest : List Char) (arguments : Fields Json) :
    Except Gateway.Failure (List Char × Fields Json) :=
  match _ : Text.splitFirst? '{' rest with
  | none => .ok (rest, arguments)
  | some (before, behind) =>
    match _ : Text.splitFirst? '}' behind with
    | none => .error (.unsupported ("malformed path template " ++ template))
    | some (place, after) => do
      let name := String.ofList place
      let segment ← fillArgument name (arguments.get? name)
      let (more, left) ← fillText template after (arguments.erase name)
      .ok (before ++ segment.toList ++ more, left)
termination_by rest.length
decreasing_by
  rename_i hopen hclose
  exact Nat.lt_trans (Text.length_of_splitFirst? hclose) (Text.length_of_splitFirst? hopen)

def joinPath (segments : List String) : String := String.join (segments.map ("/" ++ ·))

/-- Gives the value of an argument another name. -/
def rename (arguments : Fields Json) (pair : String × String) : Fields Json :=
  match arguments.get? pair.1 with
  | some v => (arguments.erase pair.1).insert pair.2 v
  | none => arguments

/-- Moves arguments into an object of their own, unless none of them is given. -/
def nest (nesting : Nesting) (arguments : Fields Json) : Fields Json :=
  let inner := Fields.ofList <|
    nesting.arguments.filterMap fun n => (arguments.get? n).map fun v => (n, v)
  let outer := nesting.arguments.foldl (fun left n => left.erase n) arguments
  if inner.isEmpty then outer else outer.insert nesting.object (.obj inner)

/-- The members of the body. -/
def Route.members (r : Route) (arguments : Fields Json) : Fields Json :=
  let renamed := r.renames.foldl rename arguments
  match r.nesting with
  | some n => nest n renamed
  | none => renamed

def Route.prepare (r : Route) (arguments : Fields Json) : Except Gateway.Failure Prepared := do
  let (segments, left) ← fillPath r.path arguments
  .ok
    { method := r.method
      path := joinPath segments
      body := if r.method.hasBody then some (.obj (r.members left)) else none }

/-- The grants of a new access key in their one normal form, and no member for no grants. -/
def normalizeGrants (call : ToolCall) : Except Gateway.Failure (Fields Json) :=
  if !call.arguments.contains Grant.argumentName then .ok call.arguments
  else
    match Grant.ofCall call with
    | .error v => .error (.unsupported v.message)
    | .ok [] => .ok (call.arguments.erase Grant.argumentName)
    | .ok grants =>
      .ok (call.arguments.insert Grant.argumentName (.arr (grants.map (·.toJson))))

/-- The request for a call, under the canonical name of its operation. -/
def prepare (operation : String) (call : ToolCall) : Except Gateway.Failure Prepared :=
  match routeOf? operation with
  | none => .error (.unsupported operation)
  | some r =>
    if operation = "create_access_key" then do r.prepare (← normalizeGrants call)
    else r.prepare call.arguments

end CloudGate.Request
