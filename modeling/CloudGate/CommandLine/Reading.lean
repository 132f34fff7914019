import CloudGate.CommandLine.Basic
import CloudGate.CommandLine.Stop
import CloudGate.CommandLine.Word

/-!
Reading a command line. Words are taken one after the other. An option that takes a value from the
next word waits for it, and what it was given counts only when the next word is taken as an option
or a tool, or at the end. So an unknown word is reported before a wrong value in front of it. The
words after a command belong to it, and are read to the end before what stands in front of the
command is settled.
-/

namespace CloudGate.CommandLine

/-- Options that were given, in their order, with their values. -/
abbrev Given := List (Switch × String)

namespace Given

def has (g : Given) (s : Switch) : Bool := g.any (·.1 == s)

def value? (g : Given) (s : Switch) : Option String := (g.find? (·.1 == s)).map (·.2)

def count (g : Given) (s : Switch) : Nat := (g.filter (·.1 == s)).length

/-- Joins what was given to a command and what stood in front of it. Option by option, what was
given to the command wins. -/
def inherit (inner outer : Given) : Given := inner ++ outer.filter fun g => !inner.has g.1

end Given

/-- How far a command line was read. -/
structure Reading where
  given : Given := []
  tool : Option String := none
  pending : Option (Switch × Option String) := none

namespace Reading

/-- Output formats are written in lower case, and paths are not empty. -/
def isFit (s : Switch) (value : String) : Bool :=
  match s with
  | .output => OutputFormat.all.any (·.name == value)
  | .config => value != ""
  | _ => true

/-- Takes an option with its value. A second one is refused before its value is looked at. -/
def accept (r : Reading) (s : Switch) (value : String) : Except Stop Reading :=
  if r.given.has s && !s.isCounted then .error (.repeated s)
  else if isFit s value then .ok { r with given := r.given ++ [(s, value)] }
  else .error (.invalidValue s value)

/-- Takes the option that waits, if there is one. -/
def settle (r : Reading) : Except Stop Reading :=
  match r.pending with
  | none => .ok r
  | some (s, none) => .error (.missingValue s)
  | some (s, some value) => accept { r with pending := none } s value

/-- The next word is a value, unless it is an option. -/
def isWaiting (r : Reading) : Bool := r.pending.any (·.2.isNone)

def giveFlag (r : Reading) (scope : Scope) (s : Switch) : Except Stop Reading := do
  let r ← r.settle
  match s with
  | .help => .error (.help scope)
  | .version => .error .version
  | _ => r.accept s ""

def giveOption (r : Reading) (s : Switch) (value : Option String) : Except Stop Reading := do
  let r ← r.settle
  match value with
  | some value => r.accept s value
  | none => .ok { r with pending := some (s, none) }

/-- Takes a word that is no option. Only the first one can be the name of a tool. -/
def giveTool (r : Reading) (scope : Scope) (text : String) : Except Stop Reading :=
  if scope.takesTool && r.tool.isNone then r.settle.map fun r => { r with tool := some text }
  else .error (.unexpectedWord text)

def readCluster (scope : Scope) : Reading → List Char → Except Stop Reading
  | r, [] => .ok r
  | r, c :: rest =>
    match scope.ofLetter? c with
    | none => .error (.unknownOption ("-" ++ String.singleton c))
    | some s =>
      if s.takesValue then r.giveOption s (clusterValue? rest)
      else
        match r.giveFlag scope s with
        | .ok r => readCluster scope r rest
        | .error stop => .error stop

def readLong (r : Reading) (scope : Scope) (name : String) (value : Option String) :
    Except Stop Reading :=
  match scope.ofName? name, value with
  | none, _ => .error (.unknownOption ("--" ++ name))
  | some s, none => if s.takesValue then r.giveOption s none else r.giveFlag scope s
  | some s, some value =>
    if s.takesValue then r.giveOption s (some value) else .error (.unwantedValue s value)

/-- Takes a word that is neither a command nor the mark. -/
def readWord (r : Reading) (scope : Scope) (text : String) : Except Stop Reading :=
  match Word.ofText text with
  | .long name value => r.readLong scope name value
  | .short letters => readCluster scope r letters
  | .mark | .plain =>
    match r.pending with
    | some (s, none) => .ok { r with pending := some (s, some text) }
    | _ => r.giveTool scope text

/-- Reads the words of a command. After the mark no word is an option. -/
def readWords (scope : Scope) : Reading → List String → Except Stop Reading
  | r, [] => .ok r
  | r, text :: rest =>
    match Word.ofText text with
    | .mark => rest.foldlM (fun r text => r.giveTool scope text) r
    | _ =>
      match r.readWord scope text with
      | .ok r => readWords scope r rest
      | .error stop => .error stop

def finish (r : Reading) (scope : Scope) : Except Stop Reading := do
  let r ← r.settle
  if scope.takesTool && r.tool.isNone then .error (.missingTool scope) else .ok r

end Reading

/-! ## Commands -/

/-- What asking for help on commands comes to. No command has commands of its own. -/
def helpOn : List String → Stop
  | [] => .help .program
  | text :: rest =>
    match CommandName.ofText? text, rest with
    | some c, [] => .help (.command c)
    | none, [] => if text = helpWord then .help .program else .unknownCommand text
    | some _, next :: _ => .unknownCommand next
    | none, next :: _ => .unknownCommand (if text = helpWord then next else text)

/-- What a word means that stands, after the mark, where a command could have stood. -/
def misplaced (text : String) : Stop :=
  if text = helpWord ∨ (CommandName.ofText? text).isSome then .unexpectedWord text
  else .unknownCommand text

/-- Reads words up to a command, and the words of the command. -/
def readProgram : Reading → List String →
    Except Stop (Reading × Option (CommandName × Reading))
  | r, [] => .ok (r, none)
  | r, text :: rest =>
    match Word.ofText text with
    | .mark =>
      match rest with
      | [] => .ok (r, none)
      | next :: _ => .error (misplaced next)
    | .plain =>
      if r.isWaiting then
        match r.readWord .program text with
        | .ok r => readProgram r rest
        | .error stop => .error stop
      else if text = helpWord then .error (helpOn rest)
      else
        match CommandName.ofText? text with
        | none => .error (.unknownCommand text)
        | some c => do
          let inner ← Reading.readWords (.command c) {} rest
          let inner ← inner.finish (.command c)
          return (r, some (c, inner))
    | _ =>
      match r.readWord .program text with
      | .ok r => readProgram r rest
      | .error stop => .error stop

/-! ## Results -/

/-- The greatest number to which an option is counted. -/
def maxCount : Nat := 255

def callRequest (r : Reading) : CallRequest :=
  { tool := r.tool.getD "", args := r.given.value? .args, confirm := r.given.has .confirm }

def commandOf (r : Reading) : CommandName → Command
  | .tools => .tools (r.given.has .schema) (r.given.has .readOnly)
  | .check => .check (callRequest r)
  | .call => .call (callRequest r) (r.given.has .dryRun)

def parse (words : List String) : Except Stop CommandLine := do
  let (outer, inner) ← readProgram {} words
  let outer ← outer.finish .program
  let given := Given.inherit ((inner.map (·.2.given)).getD []) outer.given
  return {
    command := inner.map fun (c, r) => commandOf r c
    output := (given.value? .output).bind fun v => OutputFormat.all.find? (·.name == v)
    verbosity := min (given.count .verbose) maxCount
    quiet := given.has .quiet
    config := given.value? .config
    noConfig := given.has .noConfig
    showConfig := given.has .showConfig }

end CloudGate.CommandLine
