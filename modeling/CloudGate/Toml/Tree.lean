import CloudGate.Toml.Basic

/-!
A document under construction. Tables remember how they came about, because a table may be opened by
one header only, and what dotted keys began only dotted keys may extend.
-/

namespace CloudGate.Toml

/-- How a table came about: under a header of its own, on the way to another header, or through a
dotted key. -/
inductive Origin
  | header
  | path
  | dotted
  deriving DecidableEq, Repr

inductive Tree
  | value (v : Value)
  | table (origin : Origin) (members : List (String × Tree))
  | tables (done : List Tree) (current : Tree)
  deriving Inhabited

namespace Tree

def emptyTable (origin : Origin) : Tree := .table origin []

def member? (members : List (String × Tree)) (key : String) : Option Tree :=
  (members.find? (·.1 == key)).map (·.2)

def setMember (members : List (String × Tree)) (key : String) (t : Tree) : List (String × Tree) :=
  if members.any (·.1 == key) then members.map fun m => if m.1 = key then (key, t) else m
  else members ++ [(key, t)]

/-- Changes a table, or the last table of an array of tables. -/
def atLast (change : Tree → Option Tree) : Tree → Option Tree
  | .tables done current => (atLast change current).map (.tables done)
  | t => change t

/-- Changes the table that a header path leads to. What is missing on the way is created, and of an
array of tables the last one counts. -/
def alongHeader (change : Tree → Option Tree) : List String → Tree → Option Tree
  | [] => atLast change
  | key :: path =>
    atLast fun
      | .table origin members => do
        let t ← alongHeader change path ((member? members key).getD (emptyTable .path))
        some (.table origin (setMember members key t))
      | _ => none

/-- Opens a table under a header: a new one, or one that was only passed on the way. -/
def openTable (path : List String) (root : Tree) : Option Tree :=
  match path.getLast? with
  | none => none
  | some key =>
    let change : Tree → Option Tree
      | .table origin members =>
        match member? members key with
        | none => some (.table origin (setMember members key (emptyTable .header)))
        | some (.table .path inner) =>
          some (.table origin (setMember members key (.table .header inner)))
        | some _ => none
      | _ => none
    alongHeader change path.dropLast root

/-- Opens one more table of an array of tables. -/
def openElement (path : List String) (root : Tree) : Option Tree :=
  match path.getLast? with
  | none => none
  | some key =>
    let change : Tree → Option Tree
      | .table origin members =>
        match member? members key with
        | none => some (.table origin (setMember members key (.tables [] (emptyTable .header))))
        | some (.tables done current) =>
          some (.table origin
            (setMember members key (.tables (done ++ [current]) (emptyTable .header))))
        | some _ => none
      | _ => none
    alongHeader change path.dropLast root

/-- Puts a value under a dotted key of a table. Only tables of dotted keys may be extended by one,
and only by one, and no key is set twice. -/
def assign (v : Value) : List String → Tree → Option Tree
  | [key], .table origin members =>
    if (member? members key).isSome then none
    else some (.table origin (setMember members key (.value v)))
  | key :: path, .table origin members =>
    match (member? members key).getD (emptyTable .dotted) with
    | .table .dotted inner => do
      let t ← assign v path (.table .dotted inner)
      some (.table origin (setMember members key t))
    | .table .path inner =>
      if path.length = 1 then none
      else do
        let t ← assign v path (.table .path inner)
        some (.table origin (setMember members key t))
    | .tables done current =>
      if path.length = 1 then none
      else do
        let t ← assign v path current
        some (.table origin (setMember members key (.tables done t)))
    | _ => none
  | _, _ => none

/-- Puts a value under a key of the table that a header opened. -/
def assignUnder (header key : List String) (v : Value) (root : Tree) : Option Tree :=
  alongHeader (assign v key) header root

mutual

/-- The finished value. -/
def toValue : Tree → Value
  | .value v => v
  | .table _ members => .table (Fields.ofList (memberValues members))
  | .tables done current => .array (itemValues done ++ [toValue current])

def memberValues : List (String × Tree) → List (String × Value)
  | [] => []
  | (key, t) :: rest => (key, toValue t) :: memberValues rest

def itemValues : List Tree → List Value
  | [] => []
  | t :: rest => toValue t :: itemValues rest

end

end Tree

end CloudGate.Toml
