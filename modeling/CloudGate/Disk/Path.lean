import CloudGate.Text.Split

/-!
Paths as they are written: names with slashes between them. A path that begins with a slash starts
at the root, any other one at the working folder.
-/

namespace CloudGate.Path

def isAbsolute (path : String) : Bool := path.toList.head? == some '/'

/-- The steps of a path. Empty names and single dots are no steps. -/
def steps (path : String) : List String :=
  ((Text.splitBy '/' path.toList).map String.ofList).filter fun n => n != "" && n != "."

/-- Takes one step from a folder. -/
def step (folder : List String) (name : String) : List String :=
  if name = ".." then folder.dropLast else folder ++ [name]

/-- Drops slashes and single dots at the end of a path that is given backwards. -/
def dropEnd : List Char → List Char
  | '/' :: rest => dropEnd rest
  | '.' :: '/' :: rest => dropEnd rest
  | cs => cs

/-- The last name of a path, if it names something in a folder. -/
def fileName? (path : String) : Option String :=
  let name := String.ofList ((dropEnd path.toList.reverse).takeWhile (· != '/')).reverse
  if name = "" ∨ name = "." ∨ name = ".." then none else some name

/-- The path without its last name. The root and the empty path have none. -/
def parent? (path : String) : Option String :=
  match dropEnd path.toList.reverse with
  | [] => none
  | cs =>
    let before := cs.dropWhile (· != '/')
    let parent := dropEnd before
    if parent.isEmpty && !before.isEmpty then some "/" else some (String.ofList parent.reverse)

end CloudGate.Path
