import CloudGate.Text.Letter

/-!
Single characters: their code points, ASCII, and the lowercase of characters beyond ASCII.

* `forall_ascii`: a property of ASCII characters is checked code point by code point.
* `ascii_of_lowerChar`: what becomes an ASCII character other than `k` was one already. `k` is also
  the lowercase of the Kelvin sign.
-/

namespace CloudGate.Text

/-! ## Code points -/

theorem toNat_ofNat {n : Nat} (h : n.isValidChar) : (Char.ofNat n).toNat = n := by
  unfold Char.ofNat
  rw [dif_pos h]
  rfl

theorem toNat_lt (c : Char) : c.toNat < 0x110000 := by
  rcases c.valid with h | ⟨-, h⟩
  · exact Nat.lt_trans h (by decide)
  · exact h

/-! ## ASCII characters -/

/-- What holds of the first 128 code points holds of every ASCII character. -/
theorem forall_ascii {P : Char → Prop} (h : ∀ n < 0x80, P (Char.ofNat n)) {c : Char}
    (hc : isAscii c = true) : P c := by
  have hn : c.toNat < 0x80 := by simpa only [isAscii, decide_eq_true_eq] using hc
  have hp := h c.toNat hn
  rwa [Char.ofNat_toNat] at hp

theorem isAscii_toLower (c : Char) : isAscii c.toLower = isAscii c := by
  cases hc : isAscii c with
  | true => exact forall_ascii (P := fun c => isAscii c.toLower = true) (by decide) hc
  | false =>
    have hn : 0x80 ≤ c.toNat := by
      simpa only [isAscii, decide_eq_false_iff_not, Nat.not_lt] using hc
    have hlower : c.toLower = c := by
      unfold Char.toLower
      rw [dif_neg]
      rintro ⟨-, hz⟩
      have hle : c.toNat ≤ 90 := hz
      omega
    rw [hlower, hc]

/-! ## The table -/

/-- The images of the run are characters beyond ASCII, or the run is the Kelvin sign alone. -/
def ImageRun.Keeps (r : ImageRun) : Prop :=
  (0x80 ≤ r.image ∧
    (r.image + (r.last - r.first) < 0xD800 ∨
      (0xE000 ≤ r.image ∧ r.image + (r.last - r.first) < 0x110000))) ∨
  (r.image = 'k'.toNat ∧ r.first = r.last)

instance (r : ImageRun) : Decidable r.Keeps := inferInstanceAs (Decidable (_ ∨ _))

theorem lowerRuns_keep : ∀ r ∈ lowerRuns, r.Keeps := by decide +kernel

theorem lowerCodePoint_keeps {n : Nat} (hn : 0x80 ≤ n) (hvalid : n.isValidChar) :
    lowerCodePoint n = 'k'.toNat ∨ (0x80 ≤ lowerCodePoint n ∧ (lowerCodePoint n).isValidChar) := by
  cases h : lowerRuns.find? fun r => r.contains n with
  | none =>
    have hsame : lowerCodePoint n = n := by simp only [lowerCodePoint, h]
    rw [hsame]
    exact Or.inr ⟨hn, hvalid⟩
  | some r =>
    have himage : lowerCodePoint n = r.image + (n - r.first) := by simp only [lowerCodePoint, h]
    rw [himage]
    have hin := List.find?_some h
    simp only [Run.contains, Bool.and_eq_true, decide_eq_true_eq] at hin
    obtain ⟨⟨hfirst, hlast⟩, -⟩ := hin
    rcases lowerRuns_keep r (List.mem_of_find?_eq_some h) with ⟨hascii, hrange⟩ | ⟨hk, hsingle⟩
    · refine Or.inr ⟨by omega, ?_⟩
      rcases hrange with hlow | ⟨hhigh, hmax⟩
      · exact Or.inl (by omega)
      · exact Or.inr ⟨by omega, by omega⟩
    · exact Or.inl (by omega)

/-! ## Lowercase -/

/-- The ASCII characters that are the lowercase of ASCII characters only, if of any. -/
def isPlain (c : Char) : Bool := isAscii c && c != 'k'

theorem ascii_of_lowerChar {c : Char} (h : ∀ d ∈ lowerChar c, isPlain d = true) :
    isAscii c = true := by
  refine Decidable.byContradiction fun hc => ?_
  have hn : 0x80 ≤ c.toNat := by simpa [isAscii] using hc
  unfold lowerChar at h
  rw [if_neg hc] at h
  split at h
  · exact absurd (h (Char.ofNat 0x307) (by simp)) (by decide)
  · have hplain := h _ (List.mem_singleton.mpr rfl)
    rcases lowerCodePoint_keeps hn c.valid with hk | ⟨hlow, hvalid⟩
    · rw [hk] at hplain
      exact absurd hplain (by decide)
    · simp only [isPlain, isAscii, Bool.and_eq_true, decide_eq_true_eq,
        toNat_ofNat hvalid] at hplain
      omega

end CloudGate.Text
