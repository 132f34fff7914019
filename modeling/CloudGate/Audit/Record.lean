import CloudGate.Audit.Event
import CloudGate.Json.Printer
import CloudGate.Json.Reader
import CloudGate.Text.Split

/-!
The audit file: one line of JSON for every event, in the order of the events. Lines are only ever
added at the end.
-/

namespace CloudGate.Audit

/-- The record of an event. Its type and time join the members of the payload; a payload that is no
object stands under `data`. -/
def record (timestamp : String) (e : Event) : Json :=
  match e.payload with
  | .obj members =>
    .obj (Fields.insert (Fields.insert members "type" (.str e.type)) "timestamp" (.str timestamp))
  | payload =>
    .object [("type", .str e.type), ("timestamp", .str timestamp), ("data", payload)]

def line (timestamp : String) (e : Event) : String := (record timestamp e).render ++ "\n"

/-- The lines of a list of events, in their order. -/
def lines (timestamp : String) (events : List Event) : String :=
  String.join (events.map (line timestamp))

/-- The lines of a text, without an empty one after the last line break. -/
def linesOf (text : String) : List String :=
  let pieces := Text.splitBy '\n' text.toList
  let pieces := if pieces.getLast? = some [] then pieces.dropLast else pieces
  pieces.map String.ofList

end CloudGate.Audit
