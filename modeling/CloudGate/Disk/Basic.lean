import CloudGate.Disk.Path

/-!
A tree of files and folders with a working folder. A folder exists if it is an entry or if anything
below it exists.
-/

namespace CloudGate

inductive Disk.Entry
  | file (text : String)
  | folder
  deriving DecidableEq, Repr

structure Disk where
  workingFolder : List String := []
  entries : List (List String × Disk.Entry) := []

namespace Disk

/-- Why a file or folder could not be had. -/
inductive Fault
  | missing
  | exists
  | notFolder
  | isFolder
  deriving DecidableEq, Repr

def Fault.message : Fault → String
  | .missing => "No such file or directory (os error 2)"
  | .exists => "File exists (os error 17)"
  | .notFolder => "Not a directory (os error 20)"
  | .isFolder => "Is a directory (os error 21)"

/-- The place of a path in the tree. -/
def locate (d : Disk) (path : String) : List String :=
  (Path.steps path).foldl Path.step (if Path.isAbsolute path then [] else d.workingFolder)

/-- What is at a place. -/
def entry? (d : Disk) (place : List String) : Option Entry :=
  match d.entries.find? (·.1 == place) with
  | some (_, e) => some e
  | none =>
    if place.isEmpty || d.entries.any fun e => place.isPrefixOf e.1 then some .folder else none

/-- Something on the way to a place is a file. -/
def isBlocked (d : Disk) (place : List String) : Bool :=
  (List.range place.length).any fun n =>
    match d.entry? (place.take n) with
    | some (.file _) => true
    | _ => false

/-- Whether a path leads to anything. The empty path leads nowhere. -/
def contains (d : Disk) (path : String) : Bool := path != "" && (d.entry? (d.locate path)).isSome

/-- The text of a file. -/
def read? (d : Disk) (path : String) : Option String :=
  match d.entry? (d.locate path) with
  | some (.file text) => if path = "" then none else some text
  | _ => none

/-- Puts an entry at a place, and drops the entry that was there. -/
def put (d : Disk) (place : List String) (e : Entry) : Disk :=
  { d with entries := (place, e) :: d.entries.filter (·.1 != place) }

/-- Creates a folder and the folders on the way to it. What exists stays. -/
def createFolders (d : Disk) (path : String) : Except Fault Disk :=
  let place := d.locate path
  if path = "" then .ok d
  else
    match d.entry? place with
    | some .folder => .ok d
    | some (.file _) => .error .exists
    | none => if d.isBlocked place then .error .notFolder else .ok (d.put place .folder)

/-- Opens a file to write at its end. A missing file is created, empty, in a folder that exists. -/
def openFile (d : Disk) (path : String) : Except Fault Disk :=
  let place := d.locate path
  let asFolder := path.toList.getLast? == some '/'
  if path = "" then .error .missing
  else
    match d.entry? place with
    | some .folder => .error .isFolder
    | some (.file _) => if asFolder then .error .notFolder else .ok d
    | none =>
      if d.isBlocked place then .error .notFolder
      else if (d.entry? place.dropLast).isNone then .error .missing
      else if asFolder then .error .isFolder
      else .ok (d.put place (.file ""))

/-- Writes at the end of a file. -/
def append (d : Disk) (path : String) (text : String) : Disk :=
  match d.entry? (d.locate path) with
  | some (.file old) => d.put (d.locate path) (.file (old ++ text))
  | _ => d

end Disk

end CloudGate
