import CloudGate.Net.Domain.ImageTable
import CloudGate.Text.Canonical
import CloudGate.Text.Letter
import CloudGate.Text.Split

/-!
The normal spelling of domain names: lowercase, every character replaced by what it stands for, and
in composed normal form.
-/

namespace CloudGate.Net.Domain

/-- The word that stands `place` words into the text. -/
def wordAt? (text : String) (place : Nat) : Option (List Char) :=
  (Text.splitBy ' ' text.toList)[place]?

/-- What a lowercase character stands for, if not for itself. -/
def image? (n : Nat) : Option (List Char) :=
  if Text.inRanges ignoredRanges n then some []
  else if Text.inRanges blankRanges n then some [' ']
  else
    let ofRun : Option (List Char) :=
      (imageRuns.find? (·.contains n)).map fun r => [Char.ofNat (r.image + (n - r.first))]
    let ofText : Option (List Char) := imageTexts.findSome? fun (first, text) =>
      if first ≤ n then (text.toList[n - first]?).map ([·]) else none
    let ofWord : Option (List Char) := imageWords.findSome? fun (first, text) =>
      if first ≤ n then wordAt? text (n - first) else none
    (ofRun.or ofText).or ofWord

def spellChar (c : Char) : List Char :=
  (Text.lowerChar c).flatMap fun d => (image? d.toNat).getD [d]

def spell (cs : List Char) : List Char := Text.canonical (cs.flatMap spellChar)

end CloudGate.Net.Domain
