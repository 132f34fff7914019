import CloudGate.Text.Split

/-!
Text with terminal colours. A style is a list of codes, and painted text resets the style at its
end.
-/

namespace CloudGate.Console

inductive Style
  | bold
  | dimmed
  | red
  | green
  | yellow
  | blue
  | magenta
  | cyan
  deriving DecidableEq, Repr

def Style.code : Style → String
  | .bold => "1"
  | .dimmed => "2"
  | .red => "31"
  | .green => "32"
  | .yellow => "33"
  | .blue => "34"
  | .magenta => "35"
  | .cyan => "36"

def escape (codes : String) : String := "\x1b[" ++ codes ++ "m"

def reset : String := escape "0"

/-- Starts the style anew after every reset inside a text. -/
def restyle (start : List Char) : Nat → List Char → List Char
  | 0, cs => cs
  | _ + 1, [] => []
  | steps + 1, c :: rest =>
    match Text.afterPrefix? reset.toList (c :: rest) with
    | some after => reset.toList ++ start ++ restyle start steps after
    | none => c :: restyle start steps rest

/-- Paints a text, if there is to be colour. -/
def paint (color : Bool) (styles : List Style) (s : String) : String :=
  if color then
    let start := escape (";".intercalate (styles.map (·.code)))
    start ++ String.ofList (restyle start.toList s.length s.toList) ++ reset
  else s

end CloudGate.Console
