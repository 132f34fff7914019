import CloudGate.Json.Decode
import CloudGate.Text.Fold

/-!
How results are printed, and what decides it.
-/

namespace CloudGate

inductive OutputFormat
  | pretty
  | json
  deriving DecidableEq, Repr

namespace OutputFormat

def all : List OutputFormat := [.pretty, .json]

def name : OutputFormat → String
  | .pretty => "pretty"
  | .json => "json"

def decode : Json.Decoder OutputFormat := .variant (all.map fun f => (f.name, f))

/-- Reads a format in any case. -/
def parse (s : String) : Except String OutputFormat :=
  let folded := Text.fold s
  match all.find? (·.name == folded) with
  | some f => .ok f
  | none => .error ("unknown output format '" ++ folded ++ "': expected 'pretty' or 'json'")

end OutputFormat

/-- The settled choices about output. -/
structure OutputChoice where
  format : OutputFormat
  color : Bool
  showProgress : Bool
  deriving DecidableEq, Repr

namespace OutputChoice

def default : OutputChoice := { format := .pretty, color := true, showProgress := true }

/-- The command line wins over the file. Output for programs shows no progress. -/
def settle (asked configured : Option OutputFormat) (color quiet : Bool) : OutputChoice :=
  let format := (asked.or configured).getD .pretty
  { format, color, showProgress := !quiet && format == .pretty }

end OutputChoice

end CloudGate
