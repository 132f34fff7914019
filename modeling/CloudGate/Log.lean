/-!
Diagnostic messages, in the order in which they arise.
-/

namespace CloudGate

inductive LogLevel
  | warn
  | info
  | debug
  deriving DecidableEq, Repr

def LogLevel.name : LogLevel → String
  | .warn => "WARN"
  | .info => "INFO"
  | .debug => "DEBUG"

/-- How much has to be asked for before messages of a level are shown. -/
def LogLevel.verbosity : LogLevel → Nat
  | .warn => 0
  | .info => 1
  | .debug => 2

structure LogLine where
  level : LogLevel
  message : String
  deriving DecidableEq, Repr

def LogLine.text (l : LogLine) : String := l.level.name ++ " " ++ l.message ++ "\n"

abbrev Log := List LogLine

/-- The messages that are shown at a verbosity. -/
def Log.shown (verbosity : Nat) (log : Log) : Log := log.filter (·.level.verbosity ≤ verbosity)

end CloudGate
