import CloudGate.CommandLine.Switch

/-!
Why a command line is not run: it asks for help or for the version, or it is wrong.
-/

namespace CloudGate.CommandLine

inductive Stop
  | help (scope : Scope)
  | version
  | missingTool (scope : Scope)
  | missingValue (s : Switch)
  | invalidValue (s : Switch) (value : String)
  | unwantedValue (s : Switch) (value : String)
  | repeated (s : Switch)
  | unknownOption (text : String)
  | unexpectedWord (text : String)
  | unknownCommand (text : String)
  deriving DecidableEq, Repr

namespace Stop

/-- To ask for help is no mistake. -/
def isMistake : Stop → Bool
  | .help _ | .version => false
  | _ => true

def exitCode (stop : Stop) : Nat := if stop.isMistake then 2 else 0

/-! ## Texts -/

def optionLine (s : Switch) : String :=
  "  " ++ (match s.letter? with
    | some c => "-" ++ String.singleton c ++ ", "
    | none => "    ") ++ "--" ++ s.name ++ (if s.takesValue then " <VALUE>" else "") ++ "  " ++
    s.describe ++ "\n"

def commandLine (c : CommandName) : String := "  " ++ c.name ++ "  " ++ c.describe ++ "\n"

def usage : Scope → String
  | .program => "Usage: cloudops [OPTIONS] [COMMAND]\n"
  | .command c =>
    "Usage: cloudops " ++ c.name ++ " [OPTIONS]" ++
      (if (Scope.command c).takesTool then " <TOOL>" else "") ++ "\n"

def helpText (scope : Scope) : String :=
  (match scope with
   | .program => "Guarded command-line access to a cloud provider API\n\n"
   | .command c => c.describe ++ "\n\n") ++ usage scope ++
    (if scope = .program then "\nCommands:\n" ++ String.join (CommandName.all.map commandLine)
     else "") ++
    "\nOptions:\n" ++ String.join (scope.switches.map optionLine)

def versionText : String := "cloudops 0.1.0\n"

def message : Stop → String
  | .help scope => helpText scope
  | .version => versionText
  | .missingTool scope => "error: the name of a tool is missing\n\n" ++ usage scope
  | .missingValue s => "error: a value is required for '--" ++ s.name ++ "'\n"
  | .invalidValue s value => "error: invalid value '" ++ value ++ "' for '--" ++ s.name ++ "'\n"
  | .unwantedValue s value =>
    "error: unexpected value '" ++ value ++ "' for '--" ++ s.name ++ "'\n"
  | .repeated s => "error: '--" ++ s.name ++ "' cannot be used more than once\n"
  | .unknownOption text | .unexpectedWord text =>
    "error: unexpected argument '" ++ text ++ "'\n"
  | .unknownCommand text => "error: unrecognized command '" ++ text ++ "'\n"

end Stop

end CloudGate.CommandLine
