import CloudGate.Settings.Encoding
import CloudGate.Settings.Load

/-!
The text that shows where settings come from and what they are.
-/

namespace CloudGate.Settings

/-- Whether there is something at a path that was asked for. -/
def foundText (d : Disk) (path : String) : String := if d.contains path then "FOUND" else "MISSING"

/-- The sources of settings, the strongest first. -/
def sourcesText (d : Disk) (env : Environment) (explicit : Option String) : String :=
  "Configuration sources (in priority order):\n" ++
    "  [     ] Env:     " ++ variablePrefix ++ "<SECTION>__<KEY>\n" ++
    (match explicit with
     | some path => "  [" ++ foundText d path ++ "] Explicit: " ++ path ++ "\n"
     | none => "") ++
    (match projectPath? d with
     | some path => "  [FOUND] Project: " ++ path ++ "\n"
     | none => "  [     ] Project: ./cloudops.toml or ./.cloudops.toml\n") ++
    (match globalPath? env with
     | some path =>
       (if d.contains path then "  [FOUND] Global:  " else "  [     ] Global:  ") ++ path ++ "\n"
     | none => "") ++
    "  [     ] Default: built-in defaults\n"

end CloudGate.Settings
