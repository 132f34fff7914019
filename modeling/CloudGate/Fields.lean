/-!
Maps from names to values, as association lists in increasing order of their names. The order is
that of code points, which is also the byte order of the names in UTF-8.
-/

namespace CloudGate

abbrev Fields (α : Type) := List (String × α)

namespace Fields

variable {α β : Type}

/-- The value under a name. -/
def get? (fields : Fields α) (name : String) : Option α :=
  match fields with
  | [] => none
  | (n, v) :: rest => if n = name then some v else get? rest name

def contains (fields : Fields α) (name : String) : Bool := (fields.get? name).isSome

/-- Puts a value under a name and drops the value that was there. -/
def insert (fields : Fields α) (name : String) (value : α) : Fields α :=
  match fields with
  | [] => [(name, value)]
  | (n, v) :: rest =>
    if n = name then (name, value) :: rest
    else if name < n then (name, value) :: (n, v) :: rest
    else (n, v) :: insert rest name value

def erase (fields : Fields α) (name : String) : Fields α :=
  match fields with
  | [] => []
  | (n, v) :: rest => if n = name then rest else (n, v) :: erase rest name

def names (fields : Fields α) : List String := fields.map (·.1)

/-- Replaces every value by an image that may depend on its name. -/
def mapValues (fields : Fields α) (f : String → α → β) : Fields β :=
  fields.map fun (n, v) => (n, f n v)

/-- Collects pairs in any order. Of equal names the last one counts. -/
def ofList (pairs : List (String × α)) : Fields α :=
  pairs.foldl (fun fields (n, v) => insert fields n v) []

/-- Each name is smaller than all names after it. -/
def Sorted (fields : Fields α) : Prop := fields.Pairwise fun a b => a.1 < b.1

end Fields

end CloudGate
