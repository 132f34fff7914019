import CloudGate.Text.Shorten

/-!
Texts that are cut to a number of bytes.

* `boundaryUpTo_le`, `le_boundaryUpTo`: the search backwards stops at the last end of a character.
* `cut_longest`: so what is kept is the longest leading part that fits.
* `shorten_eq`: the text itself, or the longest leading part that leaves room for an ellipsis.
-/

namespace CloudGate.Text

/-! ## Ends of characters -/

theorem boundaryUpTo_le (s : String) (n : Nat) : boundaryUpTo s n ≤ n := by
  induction n with
  | zero => exact Nat.le_refl 0
  | succ n ih =>
    simp only [boundaryUpTo]
    split
    · exact Nat.le_refl _
    · omega

/-- The search passes no end of a character. -/
theorem le_boundaryUpTo {s : String} {i n : Nat} (hi : (⟨i⟩ : String.Pos.Raw).IsValid s)
    (hle : i ≤ n) : i ≤ boundaryUpTo s n := by
  induction n with
  | zero => exact hle
  | succ n ih =>
    simp only [boundaryUpTo]
    split
    · exact hle
    · rename_i hn
      have hne : i ≠ n + 1 := by
        rintro rfl
        exact hn hi
      exact ih (by omega)

/-- The leading part of a text that fits in a number of bytes and is the longest one. -/
structure LongestFit (s : String) (room : Nat) (kept : String) : Prop where
  leads : ∃ rest, s = kept ++ rest
  fits : kept.utf8ByteSize ≤ room
  longest : ∀ front rest, s = front ++ rest → front.utf8ByteSize ≤ room →
    ∃ more, kept = front ++ more

/-- Of two leading parts of a text the shorter one leads the longer one. -/
theorem exists_append_of_size_le {front rest kept more : String}
    (h : front ++ rest = kept ++ more) (hsize : front.utf8ByteSize ≤ kept.utf8ByteSize) :
    ∃ between, kept = front ++ between := by
  have hlists := congrArg String.toList h
  rw [String.toList_append, String.toList_append] at hlists
  rcases List.append_eq_append_iff.mp hlists with ⟨cs, hkept, -⟩ | ⟨cs, hfront, -⟩
  · refine ⟨String.ofList cs, String.toList_inj.mp ?_⟩
    rw [hkept, String.toList_append, String.toList_ofList]
  · have hfront : front = kept ++ String.ofList cs := by
      rw [← String.toList_inj, hfront, String.toList_append, String.toList_ofList]
    rw [hfront, String.utf8ByteSize_append] at hsize
    have hnone : String.ofList cs = "" := String.utf8ByteSize_eq_zero_iff.mp (by omega)
    refine ⟨"", ?_⟩
    rw [hfront, hnone, String.append_empty, String.append_empty]

theorem cut_longest (s : String) (room : Nat) : LongestFit s room (cut s room) := by
  have hsplits := String.Pos.splits
    (⟨⟨boundaryUpTo s room⟩, boundaryUpTo_isValid s room⟩ : s.Pos)
  have hs : s = cut s room ++ _ := hsplits.eq_append
  have hsize : boundaryUpTo s room = (cut s room).utf8ByteSize :=
    congrArg String.Pos.Raw.byteIdx hsplits.offset_eq_rawEndPos
  refine ⟨⟨_, hs⟩, hsize ▸ boundaryUpTo_le s room, fun front rest hfront hfits => ?_⟩
  have hvalid : (⟨front.utf8ByteSize⟩ : String.Pos.Raw).IsValid s :=
    String.Pos.Raw.isValid_iff_exists_append.mpr ⟨front, rest, hfront, rfl⟩
  exact exists_append_of_size_le (hfront.symm.trans hs) (hsize ▸ le_boundaryUpTo hvalid hfits)

/-- The longest part ends where the search stops. -/
theorem boundaryUpTo_eq {s kept : String} {room : Nat} (h : LongestFit s room kept) :
    boundaryUpTo s room = kept.utf8ByteSize := by
  obtain ⟨rest, hs⟩ := h.leads
  have hkept : (⟨kept.utf8ByteSize⟩ : String.Pos.Raw).IsValid s :=
    String.Pos.Raw.isValid_iff_exists_append.mpr ⟨kept, rest, hs, rfl⟩
  obtain ⟨front, back, hfront, hsize⟩ :=
    String.Pos.Raw.isValid_iff_exists_append.mp (boundaryUpTo_isValid s room)
  have hstop : boundaryUpTo s room = front.utf8ByteSize := congrArg String.Pos.Raw.byteIdx hsize
  obtain ⟨more, hmore⟩ := h.longest front back hfront (hstop ▸ boundaryUpTo_le s room)
  have hle : boundaryUpTo s room ≤ kept.utf8ByteSize := by
    rw [hstop, hmore, String.utf8ByteSize_append]
    exact Nat.le_add_right _ _
  exact Nat.le_antisymm hle (le_boundaryUpTo hkept h.fits)

/-- The bytes in front of the place where the search stops are those of the longest part. -/
theorem bytes_longestFit {s kept : String} {room : Nat} (h : LongestFit s room kept) :
    kept.toByteArray = s.toByteArray.extract 0 (boundaryUpTo s room) := by
  obtain ⟨rest, hs⟩ := h.leads
  rw [boundaryUpTo_eq h, hs, String.toByteArray_append, ← String.size_toByteArray,
    ByteArray.extract_append_eq_left rfl]

/-! ## Shortening -/

/-- A text that is short enough stays as it is. Of a longer one the longest leading part is kept
that leaves three bytes for the ellipsis; the cut is where the search backwards for the end of a
character stops. -/
theorem shorten_eq (s : String) (limit : Nat) :
    (s.utf8ByteSize ≤ limit → shorten s limit = s) ∧
      (limit < s.utf8ByteSize → ∃ kept, LongestFit s (limit - 3) kept ∧
        kept.toByteArray = s.toByteArray.extract 0 (boundaryUpTo s (limit - 3)) ∧
        shorten s limit = kept ++ "...") ∧
      (shorten s limit).toByteArray.IsValidUTF8 ∧
      (shorten s limit).utf8ByteSize ≤ max limit 3 := by
  have hkept := cut_longest s (limit - 3)
  have hcut : limit < s.utf8ByteSize → shorten s limit = cut s (limit - 3) ++ "..." := by
    intro hlong
    unfold shorten
    rw [if_neg (Nat.not_le.mpr hlong), Nat.min_eq_left (by omega)]
  refine ⟨fun hshort => if_pos hshort, fun hlong => ?_, (shorten s limit).isValidUTF8, ?_⟩
  · exact ⟨_, hkept, bytes_longestFit hkept, hcut hlong⟩
  · by_cases hshort : s.utf8ByteSize ≤ limit
    · rw [shorten, if_pos hshort]
      omega
    · rw [hcut (Nat.not_le.mp hshort)]
      have hellipsis : "...".utf8ByteSize = 3 := by decide
      have hfits := hkept.fits
      rw [String.utf8ByteSize_append, hellipsis]
      omega

/-- Five characters of two bytes each, the second of which would be split. -/
theorem shorten_eq_accents : "ééééé".utf8ByteSize ≤ 10 ∧ 6 < "ééééé".utf8ByteSize ∧
    shorten "ééééé" 10 = "ééééé" ∧ boundaryUpTo "ééééé" 3 = 2 ∧
    ∃ kept, LongestFit "ééééé" 3 kept ∧ kept.utf8ByteSize = 2 ∧
      shorten "ééééé" 6 = kept ++ "..." := by
  have hfits : "ééééé".utf8ByteSize ≤ 10 := by decide +kernel
  have hlong : 6 < "ééééé".utf8ByteSize := by decide +kernel
  obtain ⟨kept, hkept, -, hshorten⟩ := (shorten_eq "ééééé" 6).2.1 hlong
  have hstop : boundaryUpTo "ééééé" 3 = 2 := by decide +kernel
  exact ⟨hfits, hlong, (shorten_eq "ééééé" 10).1 hfits, hstop, kept, hkept,
    (boundaryUpTo_eq hkept).symm.trans hstop, hshorten⟩

end CloudGate.Text
