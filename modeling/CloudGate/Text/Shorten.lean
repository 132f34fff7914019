/-!
Cutting a text to a number of UTF-8 bytes without splitting a character.
-/

namespace CloudGate.Text

/-- The last offset up to a given one where a character of the text ends, looked for backwards byte
by byte. -/
def boundaryUpTo (s : String) : Nat → Nat
  | 0 => 0
  | n + 1 => if (⟨n + 1⟩ : String.Pos.Raw).IsValid s then n + 1 else boundaryUpTo s n

theorem boundaryUpTo_isValid (s : String) (n : Nat) :
    (⟨boundaryUpTo s n⟩ : String.Pos.Raw).IsValid s := by
  induction n with
  | zero => exact String.Pos.Raw.isValid_zero
  | succ n ih =>
    simp only [boundaryUpTo]
    split
    · assumption
    · exact ih

/-- The text up to the last end of a character within `room` bytes. -/
def cut (s : String) (room : Nat) : String :=
  (s.sliceTo ⟨⟨boundaryUpTo s room⟩, boundaryUpTo_isValid s room⟩).copy

/-- A text of more than `limit` bytes is cut to `limit - 3` bytes and ends in an ellipsis. -/
def shorten (s : String) (limit : Nat) : String :=
  if s.utf8ByteSize ≤ limit then s
  else cut s (min (limit - 3) s.utf8ByteSize) ++ "..."

end CloudGate.Text
