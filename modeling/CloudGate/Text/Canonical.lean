import CloudGate.Text.CanonicalTable

/-!
The composed normal form of text. Texts that are equal for a reader but for their encoding, as a
letter with an accent and the letter followed by the accent, have the same normal form: it is taken
apart, the marks are put in order, and what can be one character becomes one.
-/

namespace CloudGate.Text

def combiningClass (c : Char) : Nat :=
  match combiningRanges.find? fun r => r.1 ≤ c.toNat && c.toNat ≤ r.2.1 with
  | some r => r.2.2
  | none => 0

/-! ## Hangul syllables -/

/-- A syllable has a leading consonant, a vowel, and perhaps a trailing consonant, and syllables are
numbered in this order. -/
def firstSyllable : Nat := 0xAC00

def syllableCount : Nat := 11172

def leadCount : Nat := 19

def vowelCount : Nat := 21

/-- Trailing consonants are counted with the case that there is none. -/
def trailCount : Nat := 28

def leadBase : Nat := 0x1100

def vowelBase : Nat := 0x1161

def trailBase : Nat := 0x11A7

def syllableParts? (n : Nat) : Option (List Nat) :=
  if firstSyllable ≤ n ∧ n < firstSyllable + syllableCount then
    let index := n - firstSyllable
    let lead := leadBase + index / (vowelCount * trailCount)
    let vowel := vowelBase + index / trailCount % vowelCount
    let trail := index % trailCount
    some (if trail = 0 then [lead, vowel] else [lead, vowel, trailBase + trail])
  else none

def syllable? (a b : Nat) : Option Nat :=
  let index := a - firstSyllable
  if leadBase ≤ a ∧ a < leadBase + leadCount ∧ vowelBase ≤ b ∧ b < vowelBase + vowelCount then
    some (firstSyllable + ((a - leadBase) * vowelCount + (b - vowelBase)) * trailCount)
  else if firstSyllable ≤ a ∧ index < syllableCount ∧ index % trailCount = 0 ∧
      trailBase < b ∧ b < trailBase + trailCount then
    some (a + (b - trailBase))
  else none

/-! ## Taking apart -/

/-- Takes a character apart as far as the composites reach. The first part of a composite is taken
apart by the composites behind it. -/
def partsFrom : List (Nat × Nat × Nat) → Nat → List Nat
  | [], n => [n]
  | (whole, first, second) :: rest, n =>
    if n = whole then partsFrom rest first ++ [second] else partsFrom rest n

def parts (c : Char) : List Char :=
  ((syllableParts? c.toNat).getD (partsFrom composites c.toNat)).map Char.ofNat

/-! ## Order of marks -/

/-- Puts a character behind the marks of lower classes. What is no mark stays where it is, and marks
of one class keep their order. -/
def place (c : Char) : List Char → List Char
  | [] => [c]
  | d :: rest =>
    if 0 < combiningClass d ∧ combiningClass d < combiningClass c then d :: place c rest
    else c :: d :: rest

def orderMarks (cs : List Char) : List Char := cs.foldr place []

/-! ## Putting together -/

def composite? (a b : Char) : Option Char :=
  ((syllable? a.toNat b.toNat).or
    ((composites.find? fun p => p.2.1 == a.toNat && p.2.2 == b.toNat).map (·.1))).map Char.ofNat

/-- Puts characters together with the one in front of them. Marks that did not join stand between,
the last of them of class `last`, and keep out marks of the same or of a lower class. -/
def composeFrom (front : Char) (between : List Char) (last : Nat) : List Char → List Char
  | [] => front :: between
  | c :: rest =>
    let reaches := between.isEmpty || last < combiningClass c
    match if reaches then composite? front c else none with
    | some whole => composeFrom whole between last rest
    | none =>
      if combiningClass c = 0 then front :: between ++ composeFrom c [] 0 rest
      else composeFrom front (between ++ [c]) (combiningClass c) rest

def compose : List Char → List Char
  | [] => []
  | c :: rest => composeFrom c [] 0 rest

/-- The normal form of a text that holds no composites but those of the table. -/
def canonical (cs : List Char) : List Char := compose (orderMarks (cs.flatMap parts))

end CloudGate.Text
