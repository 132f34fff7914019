import CloudGate.Net.Domain.Direction
import CloudGate.Net.Domain.Joining
import CloudGate.Net.Domain.Spelling
import CloudGate.Net.Punycode

/-!
Domain names beyond ASCII and their ASCII form. A name is spelled in its normal form and split into
labels at dots; a label with characters beyond ASCII is written in Punycode, and one that is already
written so must be what the encoding gives.
-/

namespace CloudGate.Net.Domain

/-- Characters that no domain name holds: controls, the space and those with a role in addresses. -/
def isForbidden (c : Char) : Bool :=
  c.toNat ≤ 0x20 || c.toNat == 0x7F || "%#/:<>?@[\\]^|".toList.contains c

/-- Characters that show something and yet stand in no name: those with a dot in what they stand
for, signs that describe characters, and placeholders. -/
def strayRanges : List (Nat × Nat) :=
  [(0x2024, 0x2026), (0x2488, 0x249B), (0x2FF0, 0x2FFF), (0x31EF, 0x31EF), (0x33C2, 0x33C2),
   (0x33C7, 0x33C7), (0x33D8, 0x33D8), (0xFE12, 0xFE12), (0xFE19, 0xFE19), (0xFE30, 0xFE30),
   (0xFE52, 0xFE52), (0xFFFC, 0xFFFD), (0x1F100, 0x1F100)]

def isNameChar (c : Char) : Bool :=
  if Text.isAscii c then !isForbidden c
  else
    Text.isJoinControl c ||
      !(Text.inRanges Text.hiddenRanges c.toNat || Text.inRanges strayRanges c.toNat)

/-- The greatest length of a label with characters beyond ASCII. -/
def maxLabelLength : Nat := 1000

/-- The greatest length of the Punycode of a label that is given in it. -/
def maxCodeLength : Nat := 2000

/-- What a label in normal spelling must be like. -/
def isLabel (label : List Char) : Bool :=
  label.all isNameChar && !label.head?.any Text.isMark && joinersFit label &&
    (label.all Text.isAscii || label.length ≤ maxLabelLength)

/-- The beginning of labels in Punycode. -/
def codePrefix : List Char := "xn--".toList

/-- A label with its ASCII form. -/
structure Label where
  text : List Char
  ascii : List Char
  deriving DecidableEq, Repr

namespace Label

/-- A label that is given in Punycode. It holds something beyond ASCII, in normal spelling. -/
def ofCode? (code : List Char) : Option Label := do
  let text ← if code.length ≤ maxCodeLength then Punycode.decode? code else none
  if isLabel text && !text.all Text.isAscii && spell text == text &&
      Punycode.encode text == code then
    some { text, ascii := codePrefix ++ code }
  else none

def ofText? (text : List Char) : Option Label :=
  if !isLabel text then none
  else if text.all Text.isAscii then some { text, ascii := text }
  else some { text, ascii := codePrefix ++ Punycode.encode text }

/-- Reads a label in normal spelling. -/
def read? (label : List Char) : Option Label :=
  match Text.afterPrefix? codePrefix label with
  | some code => ofCode? code
  | none => ofText? label

end Label

/-- The ASCII form of a name. -/
def asciiName? (name : List Char) : Option (List Char) := do
  let labels ← (Text.splitBy '.' (spell name)).mapM Label.read?
  if isInOrder (labels.map (·.text)) then some (['.'].intercalate (labels.map (·.ascii))) else none

end CloudGate.Net.Domain
