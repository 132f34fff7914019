import CloudGate.Text.EscapeTable
import CloudGate.Text.Letter

/-!
Quoted text for messages: one line between double quotes, in which every character that would not
show, or would attach to its neighbour, is written as an escape.
-/

namespace CloudGate.Text

def escapeCodePoint (n : Nat) : List Char :=
  ['\\', 'u', '\x7b'] ++ Nat.toDigits 16 n ++ ['\x7d']

def quotedChar (c : Char) : List Char :=
  if c = '"' then ['\\', '"']
  else if c = '\\' then ['\\', '\\']
  else if c = '\t' then ['\\', 't']
  else if c = '\r' then ['\\', 'r']
  else if c = '\n' then ['\\', 'n']
  else if c.toNat = 0 then ['\\', '0']
  else if 0x20 ≤ c.toNat ∧ c.toNat ≤ 0x7E then [c]
  else if inRanges attachingRanges c.toNat || inRanges hiddenRanges c.toNat then
    escapeCodePoint c.toNat
  else [c]

def quoted (s : String) : String :=
  String.ofList ('"' :: s.toList.flatMap quotedChar ++ ['"'])

end CloudGate.Text
