import CloudGate.Proofs.Text.Letter
import CloudGate.Text.Percent

/-!
Texts are ordered by their characters, which is the order of their bytes.

* `utf8_append_lt`: a smaller character has smaller bytes, whatever follows.
* `bytes_lt`: so a smaller text has smaller bytes.
-/

namespace CloudGate.Text

/-- The bytes of a text in UTF-8. -/
def bytes (s : String) : List Nat := s.toList.flatMap utf8

theorem utf8_ne_nil (c : Char) : utf8 c ≠ [] := by
  simp only [utf8]
  repeat' split
  all_goals exact List.cons_ne_nil _ _

/-- The first byte of a longer encoding is greater, and encodings of one length are compared like
the digits of their characters. -/
theorem utf8_append_lt {c d : Char} (h : c < d) (rest rest' : List Nat) :
    utf8 c ++ rest < utf8 d ++ rest' := by
  have hlt : c.toNat < d.toNat := h
  have hvalid : d.toNat < 0x110000 := toNat_lt d
  simp only [utf8]
  repeat' split
  all_goals
    simp only [List.cons_append, List.nil_append, List.cons_lt_cons_iff]
    omega

theorem flatMap_utf8_lt {cs ds : List Char} (h : cs < ds) : cs.flatMap utf8 < ds.flatMap utf8 := by
  induction cs generalizing ds with
  | nil =>
    cases ds with
    | nil => exact absurd h (List.lt_irrefl _)
    | cons d rest =>
      obtain ⟨b, more, hutf8⟩ := List.exists_cons_of_ne_nil (utf8_ne_nil d)
      rw [List.flatMap_cons, hutf8]
      exact List.nil_lt_cons b _
  | cons c rest ih =>
    cases ds with
    | nil => exact absurd h (List.not_lt_nil _)
    | cons d rest' =>
      rw [List.flatMap_cons, List.flatMap_cons]
      rcases List.cons_lt_cons_iff.mp h with hlt | ⟨rfl, hrest⟩
      · exact utf8_append_lt hlt _ _
      · exact List.append_left_lt (ih hrest)

/-- The order of texts is that of their bytes. -/
theorem bytes_lt {s s' : String} (h : s < s') : bytes s < bytes s' :=
  flatMap_utf8_lt (String.lt_iff.mp h)

end CloudGate.Text
