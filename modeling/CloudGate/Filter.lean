import CloudGate.Json.Basic
import CloudGate.Text.Fold

/-!
Filters of list operations: each compares one text field of an item with a query, up to case. An
item is kept if all filters match, and an empty query is no filter at all.
-/

namespace CloudGate

inductive MatchMode
  | exact
  | contains
  deriving DecidableEq, Repr

def MatchMode.name : MatchMode → String
  | .exact => "exact"
  | .contains => "contains"

def MatchMode.all : List MatchMode := [.exact, .contains]

/-- A filter on a field. The query is not empty. -/
structure FieldFilter where
  field : String
  query : String
  mode : MatchMode

namespace FieldFilter

/-- No filter for an empty query. -/
def ofQuery? (field query : String) (mode : MatchMode) : Option FieldFilter :=
  if query.isEmpty then none else some { field, query, mode }

/-- The text under a field. A missing field and a value that is no text read as empty. -/
def textOf (field : String) (item : Json) : String := ((item.get? field).bind Json.str?).getD ""

def holds (f : FieldFilter) (item : Json) : Bool :=
  let value := textOf f.field item
  match f.mode with
  | .exact => Text.eqFold value f.query
  | .contains => Text.containsFold value f.query

end FieldFilter

namespace FilterSet

def holds (filters : List FieldFilter) (item : Json) : Bool := filters.all (·.holds item)

/-- The items that match every filter, in their order. -/
def keep (filters : List FieldFilter) (items : List Json) : List Json :=
  items.filter (holds filters)

end FilterSet

end CloudGate
