import CloudGate.Text.CaseTable

/-!
Letter case of single characters: the properties `Uppercase`, `Lowercase`, `Cased` and
`Case_Ignorable`, and the lowercase form. ASCII is decided by range, the rest by table.
-/

namespace CloudGate.Text

def inRuns (table : List Run) (n : Nat) : Bool := table.any (·.contains n)

def inRanges (table : List (Nat × Nat)) (n : Nat) : Bool :=
  table.any fun r => r.1 ≤ n && n ≤ r.2

def isAscii (c : Char) : Bool := c.toNat < 0x80

def isUppercase (c : Char) : Bool :=
  if isAscii c then c.isUpper else inRuns upperRuns c.toNat

def isLowercase (c : Char) : Bool :=
  if isAscii c then c.isLower else inRuns smallRuns c.toNat

/-- A cased character is uppercase, lowercase or titlecase. -/
def isCased (c : Char) : Bool :=
  isUppercase c || isLowercase c || inRanges titleRanges c.toNat

def isCaseIgnorable (c : Char) : Bool := inRanges caseIgnorableRanges c.toNat

/-- The code point that `n` becomes in lowercase, by the first run that holds it. -/
def lowerCodePoint (n : Nat) : Nat :=
  match lowerRuns.find? (·.contains n) with
  | some r => r.image + (n - r.first)
  | none => n

/-- The lowercase form of one character. `İ` alone has two characters: `i` and a combining dot. -/
def lowerChar (c : Char) : List Char :=
  if isAscii c then [c.toLower]
  else if c = 'İ' then ['i', Char.ofNat 0x307]
  else [Char.ofNat (lowerCodePoint c.toNat)]

end CloudGate.Text
