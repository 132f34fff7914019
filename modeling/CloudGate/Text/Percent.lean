/-!
Percent-encoding of UTF-8 text.
-/

namespace CloudGate.Text

def upperHexDigit (n : Nat) : Char :=
  if n < 10 then Char.ofNat (48 + n) else Char.ofNat (55 + n)

/-- Writes a byte as `%` and two uppercase hexadecimal digits. -/
def percentByte (b : Nat) : List Char := ['%', upperHexDigit (b / 16), upperHexDigit (b % 16)]

/-- The bytes of a character in UTF-8. -/
def utf8 (c : Char) : List Nat :=
  let n := c.toNat
  if n < 0x80 then [n]
  else if n < 0x800 then [0xC0 + n / 64, 0x80 + n % 64]
  else if n < 0x10000 then [0xE0 + n / 4096, 0x80 + n / 64 % 64, 0x80 + n % 64]
  else [0xF0 + n / 262144, 0x80 + n / 4096 % 64, 0x80 + n / 64 % 64, 0x80 + n % 64]

def percentChar (c : Char) : List Char := (utf8 c).flatMap percentByte

/-- Letters, digits and `- . _ ~`, which need no encoding anywhere in an address. -/
def isUnreserved (c : Char) : Bool := c.isAlphanum || c == '-' || c == '.' || c == '_' || c == '~'

/-- Encodes every byte of every character that is not safe. -/
def percentEncodeBut (safe : Char → Bool) (cs : List Char) : List Char :=
  cs.flatMap fun c => if safe c then [c] else percentChar c

/-- Encodes every byte of every character that is not unreserved. -/
def percentEncode (cs : List Char) : List Char := percentEncodeBut isUnreserved cs

end CloudGate.Text
