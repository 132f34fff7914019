import CloudGate.Audit.Trail
import CloudGate.Catalog.Default
import CloudGate.CommandLine.Reading
import CloudGate.Console.Color
import CloudGate.Console.Report
import CloudGate.Gateway.Rest
import CloudGate.Settings.Report
import CloudGate.Tool.Schema

/-!
A whole run of the program, from the words of its command line to what it prints, writes and sends.
-/

namespace CloudGate.Program

/-- What a run finds around it. -/
structure Surroundings where
  env : Settings.Environment
  disk : Disk
  transport : Gateway.Transport
  /-- The time that goes into the audit trail. -/
  timestamp : String
  /-- Whether the output goes to a terminal. -/
  isTerminal : Bool := false

/-- Why a run ends before its command is through. -/
inductive Trouble
  | settings (fault : Settings.LoadFault)
  | settingsNotToml
  | settingsInvalid
  | noLogName (path : String)
  | noLogFolder (folder : String) (fault : Disk.Fault)
  | noLogFile (path : String) (fault : Disk.Fault)
  | args (fault : CommandLine.ArgsFault)

/-- A text with its cause on lines of its own. -/
def causedBy (what cause : String) : String := what ++ "\n\nCaused by:\n    " ++ cause

def Trouble.message : Trouble → String
  | .settings fault => "Failed to load configuration: " ++ fault.message
  | .settingsNotToml => "out-of-range value for u64 type"
  | .settingsInvalid => "Invalid configuration"
  | .noLogName path => "logging.file has no file name: " ++ path
  | .noLogFolder folder fault =>
    causedBy ("Failed to create log directory " ++ folder) fault.message
  | .noLogFile path fault => causedBy ("Failed to open log file " ++ path) fault.message
  | .args fault => fault.message

/-- What a run has brought about so far. -/
structure Run where
  disk : Disk
  out : String := ""
  err : String := ""
  log : Log := []
  requests : List Gateway.WebRequest := []
  exitCode : Nat := 0

namespace Run

def print (r : Run) (text : String) : Run := { r with out := r.out ++ text }

def warn (r : Run) (text : String) : Run := { r with err := r.err ++ text }

def note (r : Run) (log : Log) : Run := { r with log := r.log ++ log }

def fail (r : Run) (t : Trouble) : Run :=
  { r.warn ("Error: " ++ t.message ++ "\n") with exitCode := 1 }

/-- Shows a result. A failure also shows in the exit code. -/
def finish (r : Run) (choice : OutputChoice) (color : Bool) (result : ToolResult) : Run :=
  { r.print (Console.render choice.format color result ++ "\n") with
    exitCode := if result.success then 0 else 1 }

end Run

/-! ## Before the command -/

def settings (s : Surroundings) (line : CommandLine) : Except Settings.LoadFault Settings :=
  if line.noConfig then .ok {} else Settings.load s.disk s.env line.config

/-- Shows the settings. What was printed stays if they cannot be written down. -/
def showSettings (s : Surroundings) (line : CommandLine) (settings : Settings) (r : Run) : Run :=
  let r := r.print (Settings.sourcesText s.disk s.env line.config ++ "\n")
  match settings.redacted.toToml? with
  | some text => r.print (text ++ "\n")
  | none => r.fail .settingsNotToml

/-- The folder of a file, and the path of the file in it. -/
def logPlace? (path : String) : Option (String × String) :=
  let folder := ((Path.parent? path).filter (· != "")).getD "."
  (Path.fileName? path).map fun name => (folder, folder ++ "/" ++ name)

/-- Opens the file for messages. -/
def openLog (d : Disk) (path : String) : Except Trouble Disk :=
  match logPlace? path with
  | none => .error (.noLogName path)
  | some (folder, file) =>
    match d.createFolders folder with
    | .error fault => .error (.noLogFolder folder fault)
    | .ok d => (d.openFile file).mapError (.noLogFile path)

/-! ## Commands -/

/-- The catalog as a table or as schemas. -/
def listTools (color schema readOnly : Bool) (r : Run) : Run :=
  let registry := if readOnly then Catalog.readOnlyRegistry else Catalog.registry
  r.print <|
    if schema then (Json.arr registry.schemas).pretty ++ "\n"
    else Console.catalogText color registry ++ "\n"

/-- Opens the audit trail, if there is to be one, and tells where it is. -/
def openTrail (settings : Settings) (r : Run) : Run × Option String :=
  match settings.audit.activePath with
  | none => (r, none)
  | some path =>
    let opening := Audit.Trail.openAt r.disk path
    let r := { r with disk := opening.disk }.note opening.log
    if opening.isOpen then (r, some path)
    else
      (r.note [⟨.warn, "Audit log " ++ path ++
        " could not be opened; continuing without it"⟩], none)

/-- Runs a call. Without a trail nothing is written. -/
def call (s : Surroundings) (settings : Settings) (choice : OutputChoice) (color : Bool)
    (call : ToolCall) (dryRun : Bool) (r : Run) : Run :=
  let (r, trail) := openTrail settings r
  let provider :=
    Gateway.Provider.ofSettings settings.provider.apiUrl (settings.provider.resolveToken s.env)
  let gateway := if dryRun then Gateway.dryRun else provider.gateway s.transport
  let limitMs := Invocation.limitOfSeconds (some settings.provider.timeoutSeconds)
  let i := Catalog.registry.invoke limitMs gateway call
  let requests :=
    if dryRun then []
    else i.dispatched.flatMap fun (operation, sent) =>
      (provider.dispatch s.transport 0 operation sent).requests
  let disk :=
    match trail with
    | some path => Audit.Trail.write r.disk path s.timestamp i.audit
    | none => r.disk
  let progress := if choice.showProgress then i.progress.map (Console.progressLine color) else []
  let r := ({ r with disk, requests }.note i.log).warn (String.join progress)
  r.finish choice color i.result

def command (s : Surroundings) (settings : Settings) (line : CommandLine) (r : Run) : Run :=
  let choice :=
    OutputChoice.settle line.output settings.output.format
      (settings.output.color && s.isTerminal) line.quiet
  let color := choice.color && Console.wantsColor s.env s.isTerminal
  match line.command with
  | none => listTools color false false r
  | some (.tools schema readOnly) => listTools color schema readOnly r
  | some (.check request) =>
    match request.toCall with
    | .error fault => r.fail (.args fault)
    | .ok asked =>
      (r.note (Catalog.registry.checkLog asked)).finish choice color
        (Catalog.registry.check asked)
  | some (.call request dryRun) =>
    match request.toCall with
    | .error fault => r.fail (.args fault)
    | .ok asked => call s settings choice color asked dryRun r

/-! ## The run -/

/-- Keeps the messages that are to be shown, and writes them to their file if they have one. -/
def closeLog (settings : Settings) (line : CommandLine) (timestamp : String) (r : Run) : Run :=
  let log := r.log.shown line.verbosity
  match settings.logging.file.bind logPlace? with
  | none => { r with log }
  | some (_, file) =>
    { r with
      log := []
      disk := r.disk.append file (String.join (log.map fun l => timestamp ++ " " ++ l.text)) }

/-- The part of a run behind the settings. Errors in them end it, warnings do not. -/
def start (s : Surroundings) (line : CommandLine) (settings : Settings) : Run :=
  let r : Run := { disk := s.disk }
  if line.showConfig then showSettings s line settings r
  else
    let issues := settings.issues
    let r := r.warn (Console.issuesText (Console.wantsColor s.env s.isTerminal) issues)
    if issues.any (·.isError) then r.fail .settingsInvalid
    else
      match (settings.logging.file.map (openLog r.disk)).getD (.ok r.disk) with
      | .error t => r.fail t
      | .ok disk =>
        let r := { r with disk }.note [⟨.info, "Starting cloudops"⟩]
        closeLog settings line s.timestamp (command s settings line r)

/-- Runs the program with the words of a command line. -/
def run (s : Surroundings) (words : List String) : Run :=
  match CommandLine.parse words with
  | .error stop =>
    let r : Run := { disk := s.disk, exitCode := stop.exitCode }
    if stop.isMistake then r.warn stop.message else r.print stop.message
  | .ok line =>
    match settings s line with
    | .error fault => { disk := s.disk : Run }.fail (.settings fault)
    | .ok settings => start s line settings

end CloudGate.Program
