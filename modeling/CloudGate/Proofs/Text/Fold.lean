import CloudGate.Proofs.Text.Letter
import CloudGate.Text.Choice

/-!
Comparison without regard to case. The fold knows all of Unicode, and yet it confuses no word of
ASCII characters other than `k` with anything but its spellings in ASCII.

* `eqFold_iff`: a word without `k` is equal to its ASCII spellings and to nothing else.
* `pick?_isSome_iff`: so a choice takes exactly the ASCII spellings of its words.
-/

namespace CloudGate.Text

/-- The texts differ at most in the case of ASCII letters. -/
def SameSpelling (a b : String) : Prop := a.toList.map Char.toLower = b.toList.map Char.toLower

/-! ## The fold -/

theorem not_isPlain_lowerSigma (before after : List Char) :
    isPlain (lowerSigma before after) = false := by
  unfold lowerSigma
  split <;> decide

/-- On ASCII text the fold is the lowercase of each character. -/
theorem foldFrom_of_ascii {cs : List Char} (h : ∀ c ∈ cs, isAscii c = true) (before : List Char) :
    foldFrom before cs = cs.map Char.toLower := by
  induction cs generalizing before with
  | nil => rfl
  | cons c rest ih =>
    have hc := h c (List.mem_cons_self ..)
    have hsigma : c ≠ 'Σ' := by
      rintro rfl
      exact absurd hc (by decide)
    simp only [foldFrom, if_neg hsigma, lowerChar, if_pos hc, List.map_cons, List.singleton_append,
      ih fun d hd => h d (List.mem_cons_of_mem _ hd)]

theorem ascii_of_foldFrom {cs : List Char} (before : List Char)
    (h : ∀ d ∈ foldFrom before cs, isPlain d = true) : ∀ c ∈ cs, isAscii c = true := by
  induction cs generalizing before with
  | nil => simp
  | cons c rest ih =>
    unfold foldFrom at h
    have hrest := ih (c :: before) fun d hd => h d (List.mem_append_right _ hd)
    have hhead := fun d hd => h d (List.mem_append_left _ hd)
    split at hhead
    · have hsigma := hhead _ (List.mem_singleton.mpr rfl)
      rw [not_isPlain_lowerSigma] at hsigma
      contradiction
    · exact List.forall_mem_cons.mpr ⟨ascii_of_lowerChar hhead, hrest⟩

theorem lowerChar_ne_nil (c : Char) : lowerChar c ≠ [] := by
  unfold lowerChar
  split
  · exact List.cons_ne_nil _ _
  · split
    · exact List.cons_ne_nil _ _
    · exact List.cons_ne_nil _ _

/-- No character is folded away. -/
theorem fold_eq_empty {s : String} : fold s = "" ↔ s = "" := by
  rw [← String.toList_inj, ← String.toList_inj, fold, String.toList_ofList, foldChars]
  cases s.toList with
  | nil => exact iff_of_true rfl rfl
  | cons c rest =>
    refine iff_of_false (fun h => ?_) (List.cons_ne_nil c rest)
    rw [foldFrom] at h
    obtain ⟨hfirst, -⟩ := List.append_eq_nil_iff.mp h
    split at hfirst
    · exact List.cons_ne_nil _ _ hfirst
    · exact lowerChar_ne_nil c hfirst

/-! ## Words -/

/-- A word that no text beyond ASCII is equal to. -/
def isPlainWord (word : String) : Bool := (word.toList.map Char.toLower).all isPlain

theorem eqFold_iff {word : String} (hword : isPlainWord word = true) (s : String) :
    eqFold s word = true ↔ SameSpelling s word := by
  have hplain : ∀ c ∈ word.toList.map Char.toLower, isPlain c = true := List.all_eq_true.mp hword
  have hascii : ∀ cs : List Char, cs.map Char.toLower = word.toList.map Char.toLower →
      ∀ c ∈ cs, isAscii c = true := by
    intro cs h c hc
    have hlower := hplain _ (h ▸ List.mem_map_of_mem hc)
    rw [isPlain, Bool.and_eq_true, isAscii_toLower] at hlower
    exact hlower.1
  have hfold : foldFrom [] word.toList = word.toList.map Char.toLower :=
    foldFrom_of_ascii (hascii _ rfl) []
  simp only [eqFold, fold, foldChars, SameSpelling, beq_iff_eq, String.ofList_inj, hfold]
  constructor
  · intro h
    have hs := ascii_of_foldFrom [] (h ▸ hplain)
    rw [← foldFrom_of_ascii hs [], h]
  · intro h
    rw [foldFrom_of_ascii (hascii _ h), h]

theorem pick?_isSome_iff {allowed : List String} (hwords : allowed.all isPlainWord = true)
    (s : String) : (pick? s allowed).isSome = true ↔ ∃ word ∈ allowed, SameSpelling s word := by
  have hplain := List.all_eq_true.mp hwords
  rw [pick?, List.find?_isSome]
  constructor
  · rintro ⟨word, hmem, heq⟩
    exact ⟨word, hmem, (eqFold_iff (hplain word hmem) s).mp heq⟩
  · rintro ⟨word, hmem, hsame⟩
    exact ⟨word, hmem, (eqFold_iff (hplain word hmem) s).mpr hsame⟩

/-- The Kelvin sign shows why words with `k` are left out. -/
example : eqFold "\u212a" "k" = true := by decide +kernel

end CloudGate.Text
