import CloudGate.Decimal.Real
import CloudGate.Fields

/-!
Values of TOML documents. Tables list their members in order of their names. Dates and times are
kept as text.
-/

namespace CloudGate.Toml

inductive Value
  | str (s : String)
  | int (n : Int)
  | real (x : Decimal.Real)
  | bool (b : Bool)
  | time (text : String)
  | array (items : List Value)
  | table (members : List (String × Value))
  deriving Inhabited

/-- A reader of something at the front of a text, with the text that is left. -/
abbrev Reader (α : Type) := List Char → Option (α × List Char)

end CloudGate.Toml
