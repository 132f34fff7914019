import CloudGate.Program
import Std.Time.Format

/-!
The program on a real machine. It reads the environment and what the run may look at on the disk,
and writes what the run has written. There is no network here, so requests to the provider are
answered as requests that could not be sent.
-/

namespace CloudGate.Main

/-- The variables of the environment that are text. -/
def readEnvironment : IO (Fields String) := do
  match ← (IO.FS.readBinFile "/proc/self/environ").toBaseIO with
  | .error _ => return []
  | .ok bytes =>
    let text := (String.fromUTF8? bytes).getD ""
    return ((Text.splitBy '\x00' text.toList).filterMap (Text.splitFirst? '=')).foldl
      (fun env (n, v) => env.insert (String.ofList n) (String.ofList v)) []

def pathOf (place : List String) : String := "/" ++ "/".intercalate place

/-- What is at a place. A file that is no text shows as an empty one. -/
def readEntry (place : List String) : IO (Option Disk.Entry) := do
  let path := (← IO.currentDir) / pathOf place
  if ← path.isDir then return some .folder
  if !(← path.pathExists) then return none
  match ← (IO.FS.readFile path).toBaseIO with
  | .ok text => return some (.file text)
  | .error _ => return some (.file "")

/-- Looks at places and at the folders on the way to them. -/
def survey (d : Disk) (places : List (List String)) : IO Disk := do
  let all := places.flatMap fun p => (List.range (p.length + 1)).map (p.take ·)
  let entries ← all.eraseDups.filterMapM fun p => do return (← readEntry p).map (p, ·)
  return { d with entries }

/-- The places where files with settings may be. -/
def settingsPlaces (d : Disk) (env : Fields String) (line : CommandLine) : List (List String) :=
  let paths :=
    (Settings.globalPath? env).toList ++ Settings.projectNames ++ line.config.toList
  (paths.flatMap (Settings.candidates d)).map fun steps => steps.foldl Path.step []

/-- The places to which the run may write. -/
def writtenPlaces (d : Disk) (settings : Settings) : List (List String) :=
  (settings.audit.activePath.toList ++ settings.logging.file.toList).map d.locate

/-- Brings the disk to the state after the run. Files only ever grow at their end. -/
def writeBack (old new : Disk) : IO Unit := do
  let root ← IO.currentDir
  let changed := new.entries.filter fun e => !old.entries.contains e
  for (place, entry) in changed do
    if entry = .folder then IO.FS.createDirAll (root / pathOf place)
  for (place, entry) in changed do
    if let .file text := entry then
      let known := ((old.read? (pathOf place)).getD "").length
      let handle ← IO.FS.Handle.mk (root / pathOf place) .append
      handle.putStr (String.ofList (text.toList.drop known))

def timestamp : IO String := do
  let now :=
    Std.Time.DateTime.ofTimestamp (← Std.Time.Timestamp.now) Std.Time.TimeZone.ZoneRules.UTC
  return now.format "uuuu-MM-dd'T'HH:mm:ss.SSS'Z'"

/-- The disk as far as a command line leads to it. -/
def readDisk (env : Fields String) (words : List String) : IO Disk := do
  let d : Disk := { workingFolder := Path.steps (← IO.currentDir).toString }
  match CommandLine.parse words with
  | .error _ => return d
  | .ok line =>
    let places := [d.workingFolder] ++ settingsPlaces d env line
    let d ← survey d places
    let transport : Gateway.Transport := fun _ _ => .dropped
    match Program.settings { env, disk := d, transport, timestamp := "" } line with
    | .error _ => return d
    | .ok settings => survey d (places ++ writtenPlaces d settings)

/-- Runs the program and shows what came of it. -/
def start (words : List String) : IO UInt32 := do
  let env ← readEnvironment
  let disk ← readDisk env words
  let stdout ← IO.getStdout
  let r := Program.run
    { env
      disk
      transport := fun _ _ => .dropped
      timestamp := ← timestamp
      isTerminal := ← stdout.isTty }
    words
  writeBack disk r.disk
  IO.eprint (String.join (r.log.map (·.text)) ++ r.err)
  IO.print r.out
  return r.exitCode.toUInt32

end CloudGate.Main

def main (words : List String) : IO UInt32 := CloudGate.Main.start words
