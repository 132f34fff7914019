import CloudGate.Gateway.Basic
import CloudGate.Request.Prepared

/-!
A gateway that describes requests and sends none.
-/

namespace CloudGate.Gateway

/-- Operations with many results, which the provider delivers in pages. -/
def isListing (operation : String) : Bool := "list_".toList.isPrefixOf operation.toList

namespace DryRun

def describe (operation : String) (r : Request.Prepared) : Json :=
  .object
    [("dry_run", .bool true), ("operation", .str operation), ("method", .str r.method.name),
     ("path", .str r.path), ("body", r.body.getD .null)]

/-- A list operation answers with an empty list beside the description, so that filters apply. -/
def dispatch (operation : String) (call : ToolCall) : Except Failure Json :=
  (Request.prepare operation call).map fun r =>
    if isListing operation then
      .object [("data", .arr []), ("request", describe operation r)]
    else describe operation r

def log (operation : String) (call : ToolCall) : Log :=
  match Request.prepare operation call with
  | .ok r => [⟨.info, "dry run: " ++ r.method.name ++ " " ++ r.path⟩]
  | .error _ => []

end DryRun

/-- The gateway that sends nothing. -/
def dryRun : Gateway := fun operation call =>
  { outcome := DryRun.dispatch operation call, log := DryRun.log operation call }

end CloudGate.Gateway
