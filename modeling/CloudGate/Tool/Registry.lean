import CloudGate.Tool.Definition

/-!
The registry of tools. Tools are known by their names and by aliases, and a name always wins over an
alias.
-/

namespace CloudGate

structure Registry where
  tools : Fields Tool := []
  aliases : Fields String := []

namespace Registry

def empty : Registry := {}

/-- Adds a tool and drops an older tool of its name. -/
def register (r : Registry) (t : Tool) : Registry := { r with tools := r.tools.insert t.name t }

def registerAll (r : Registry) (tools : List Tool) : Registry := tools.foldl register r

/-- Adds an alias and drops an older alias of its spelling. -/
def addAlias (r : Registry) (spelling canonical : String) : Registry :=
  { r with aliases := r.aliases.insert spelling canonical }

def addAliases (r : Registry) (pairs : List (String × String)) : Registry :=
  pairs.foldl (fun r (spelling, canonical) => r.addAlias spelling canonical) r

def get? (r : Registry) (name : String) : Option Tool := r.tools.get? name

def resolveAlias? (r : Registry) (name : String) : Option String := r.aliases.get? name

/-- The name that a name stands for: itself if it names a tool, else its alias. -/
def resolve? (r : Registry) (name : String) : Option String :=
  if r.tools.contains name then some name else r.resolveAlias? name

/-- The tool behind a name or an alias. An alias of an alias leads nowhere. -/
def find? (r : Registry) (name : String) : Option Tool := (r.resolve? name).bind r.get?

/-- The tools in order of their names. -/
def all (r : Registry) : List Tool := r.tools.map (·.2)

def names (r : Registry) : List String := r.tools.names

def size (r : Registry) : Nat := r.tools.length

def gated (r : Registry) : List Tool := r.all.filter (·.isGated)

def readOnly (r : Registry) : List Tool := r.all.filter fun t => !t.isGated

end Registry

end CloudGate
