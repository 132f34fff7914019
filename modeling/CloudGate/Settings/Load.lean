import CloudGate.Disk.Basic
import CloudGate.Settings.Decode
import CloudGate.Settings.Variable
import CloudGate.Toml.Document

/-!
The settings of all layers: built-in defaults, the global file, the file of the project, the file
that was asked for, and the environment. Later layers win, setting by setting.
-/

namespace CloudGate.Settings

/-- Why settings could not be loaded. -/
inductive LoadFault
  | missing (path : String)
  | notToml (source : Source)
  | mismatch (m : Mismatch)
  deriving DecidableEq, Repr

def LoadFault.message : LoadFault → String
  | .missing path => "config file not found: " ++ path
  | .notToml source => "TOML parse error in " ++ source.text
  | .mismatch m => m.message

/-! ## Files -/

/-- The names of the file of a project. Only the first that exists is used. -/
def projectNames : List String := ["cloudops.toml", ".cloudops.toml"]

def projectPath? (d : Disk) : Option String := projectNames.find? d.contains

/-- The path of the global file, in the folder for settings of the user. Only the variables that are
given tell this folder: where the system knows a home folder although `HOME` is not set or empty,
the global file in it is not found here. -/
def globalPath? (env : Environment) : Option String :=
  let below (folder : String) : String :=
    (if folder.toList.getLast? = some '/' then folder else folder ++ "/") ++ "cloudops/config.toml"
  match (env.get? "XDG_CONFIG_HOME").filter Path.isAbsolute with
  | some folder => some (below folder)
  | none => ((env.get? "HOME").filter (· != "")).map fun home =>
      below ((if home.toList.getLast? = some '/' then home else home ++ "/") ++ ".config")

/-- The number of steps that two places share at their start. -/
def sharedSteps : List String → List String → Nat
  | a :: as, b :: bs => if a = b then sharedSteps as bs + 1 else 0
  | _, _ => 0

/-- How a place is shown: from the working folder, if that is shorter. -/
def shownPlace (d : Disk) (place : List String) : String :=
  let shared := sharedSteps d.workingFolder place
  let relative :=
    List.replicate (d.workingFolder.length - shared) ".." ++ place.drop shared
  if relative.length ≤ place.length then "/".intercalate relative
  else "/" ++ "/".intercalate place

/-- The places where a file is looked for: a path from the working folder also leads from the
folders around it. -/
def candidates (d : Disk) (path : String) : List (List String) :=
  if Path.isAbsolute path then [Path.steps path]
  else
    (List.range (d.workingFolder.length + 1)).map fun up =>
      d.workingFolder.take (d.workingFolder.length - up) ++ Path.steps path

/-- The first of the places that holds a file, with the text of the file. -/
def findFile? (d : Disk) (path : String) : Option (List String × String) :=
  (candidates d path).findSome? fun steps =>
    match d.entry? (steps.foldl Path.step []) with
    | some (.file text) => some (steps, text)
    | _ => none

/-- The settings in a file. What is no file holds none. -/
def fileLayer (d : Disk) (path : String) : Except LoadFault (Fields Value) :=
  match findFile? d path with
  | none => .ok []
  | some (steps, text) =>
    let source := Source.file (shownPlace d steps)
    match Toml.parse? text with
    | some members => .ok (Value.ofTomlMembers source members)
    | none => .error (.notToml source)

/-! ## Layers -/

/-- The built-in defaults as the weakest layer. Settings without a default value are not in it. -/
def defaultLayer : Fields Value :=
  let unset : Settings := {}
  let one (x : Scalar) : Value := .scalar .defaults x
  [("audit", .table .defaults [("enabled", one (.bool unset.audit.enabled))]),
   ("logging", .table .defaults []),
   ("output", .table .defaults [("color", one (.bool unset.output.color))]),
   ("provider", .table .defaults
     [("api_url", one (.str unset.provider.apiUrl)),
      ("timeout_seconds", one (.int unset.provider.timeoutSeconds false)),
      ("token_env", one (.str unset.provider.tokenEnv))])]

/-- The files that are read, from the weakest on. -/
def filePaths (d : Disk) (env : Environment) (explicit : Option String) : List String :=
  ((globalPath? env).filter d.contains).toList ++ (projectPath? d).toList ++ explicit.toList

/-- Merges layers, from the weakest on. -/
def mergeLayers (layers : List (Fields Value)) : Fields Value :=
  layers.foldl Value.mergeMembers []

/-- Loads the settings. A file that was asked for must exist, and its absence is reported before
anything else. -/
def load (d : Disk) (env : Environment) (explicit : Option String) :
    Except LoadFault Settings := do
  if let some path := explicit.filter fun path => !d.contains path then
    .error (.missing path)
  let files ← (filePaths d env explicit).mapM (fileLayer d)
  (ofMembers (mergeLayers (defaultLayer :: files ++ [Variable.layer env]))).mapError .mismatch

end CloudGate.Settings
