/-!
The words of a command line by their look.
-/

namespace CloudGate.CommandLine

/-- The mark `--`, a long option with the value behind its equals sign, a cluster of short options,
or any other word. A single hyphen is such another word. -/
inductive Word
  | mark
  | long (name : String) (value : Option String)
  | short (letters : List Char)
  | plain
  deriving DecidableEq, Repr

/-- The text behind the first equals sign. -/
def attachedValue? (cs : List Char) : Option String :=
  match cs.dropWhile (· != '=') with
  | [] => none
  | _ :: value => some (String.ofList value)

def Word.ofText (text : String) : Word :=
  match text.toList with
  | ['-', '-'] => .mark
  | '-' :: '-' :: rest => .long (String.ofList (rest.takeWhile (· != '='))) (attachedValue? rest)
  | '-' :: c :: rest => .short (c :: rest)
  | _ => .plain

/-- The value of a short option in the rest of its cluster, perhaps behind an equals sign. -/
def clusterValue? : List Char → Option String
  | [] => none
  | '=' :: value => some (String.ofList value)
  | value => some (String.ofList value)

end CloudGate.CommandLine
