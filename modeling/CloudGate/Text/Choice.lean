import CloudGate.Text.Fold

/-!
Values chosen from a short list of words, and the text that lists the words.
-/

namespace CloudGate.Text

/-- The first allowed word that equals `value` up to case. -/
def pick? (value : String) (allowed : List String) : Option String :=
  allowed.find? (eqFold value)

def quote (s : String) : String := "'" ++ s ++ "'"

/-- Lists the words as `'a', 'b' or 'c'`. -/
def describeChoice : List String → String
  | [] => ""
  | [a] => quote a
  | [a, b] => quote a ++ " or " ++ quote b
  | a :: rest => quote a ++ ", " ++ describeChoice rest

end CloudGate.Text
