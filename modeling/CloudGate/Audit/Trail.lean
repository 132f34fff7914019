import CloudGate.Audit.Record
import CloudGate.Disk.Basic
import CloudGate.Log

/-!
The audit trail on disk. A session opens the file, creating it and the folders on the way if need
be, and writes events at its end. A trail that cannot be opened is done without.
-/

namespace CloudGate.Audit

/-- What opening a trail comes to. -/
structure Opening where
  disk : Disk
  isOpen : Bool
  log : Log := []

namespace Trail

/-- Opens a trail. Folders that were created stay even if the file cannot be opened. -/
def openAt (d : Disk) (path : String) : Opening :=
  let refused (d : Disk) (what name : String) (f : Disk.Fault) : Opening :=
    { disk := d
      isOpen := false
      log := [⟨.warn, "Could not " ++ what ++ " " ++ name ++ ": " ++ f.message⟩] }
  let parent := (Path.parent? path).getD ""
  match d.createFolders parent with
  | .error f => refused d "create audit log directory" parent f
  | .ok d =>
    match d.openFile path with
    | .error f => refused d "open audit log" path f
    | .ok d => { disk := d, isOpen := true }

/-- Writes events to an open trail. -/
def write (d : Disk) (path timestamp : String) (events : List Event) : Disk :=
  d.append path (lines timestamp events)

/-- Opens a trail and writes events to it. -/
def session (d : Disk) (path timestamp : String) (events : List Event) : Opening :=
  let opening := openAt d path
  if opening.isOpen then { opening with disk := write opening.disk path timestamp events }
  else opening

end Trail

end CloudGate.Audit
