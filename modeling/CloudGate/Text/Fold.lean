import CloudGate.Text.Letter

/-!
Folding for comparison without regard to case: full lowercase, with the final form of sigma at the
end of a word.
-/

namespace CloudGate.Text

/-- The first character that is not case-ignorable is cased. -/
def meetsCased (cs : List Char) : Bool :=
  match cs.find? fun c => !isCaseIgnorable c with
  | some c => isCased c
  | none => false

/-- A sigma is final after a cased character and not before one. `before` is read backwards. -/
def lowerSigma (before after : List Char) : Char :=
  if meetsCased before && !meetsCased after then 'ς' else 'σ'

/-- The lowercase form of a text whose characters `before`, in reverse, have been passed. -/
def foldFrom (before : List Char) : List Char → List Char
  | [] => []
  | c :: rest =>
    (if c = 'Σ' then [lowerSigma before rest] else lowerChar c) ++ foldFrom (c :: before) rest

def foldChars (cs : List Char) : List Char := foldFrom [] cs

def fold (s : String) : String := String.ofList (foldChars s.toList)

def eqFold (a b : String) : Bool := fold a == fold b

/-- Whether `needle` occurs in `cs` as a run of neighbouring characters. -/
def occursIn (needle : List Char) : List Char → Bool
  | [] => needle.isEmpty
  | c :: rest => needle.isPrefixOf (c :: rest) || occursIn needle rest

def containsFold (text query : String) : Bool :=
  occursIn (foldChars query.toList) (foldChars text.toList)

end CloudGate.Text
