import CloudGate.Text.Blank
import Mathlib.Data.List.TakeWhile

/-!
Trimming: what is left of a text is the part between the blanks at its ends.

* `exists_padding`: a text is the trimmed one with blanks around it.
* `trimChars_padded`: blanks around a text that has none at its ends are what trimming takes away.
-/

namespace CloudGate.Text

/-- A text of blanks only. -/
def Blanks (cs : List Char) : Prop := ∀ c ∈ cs, isBlank c = true

/-- A text with no blank at its ends. -/
structure Bare (cs : List Char) : Prop where
  first : ∀ c ∈ cs.head?, isBlank c = false
  last : ∀ c ∈ cs.getLast?, isBlank c = false

theorem bare_of_not_blank {cs : List Char} (h : ∀ c ∈ cs, isBlank c = false) : Bare cs where
  first c hc := h c (List.mem_of_mem_head? hc)
  last c hc := h c (List.mem_of_mem_getLast? hc)

theorem Bare.reverse {cs : List Char} (h : Bare cs) : Bare cs.reverse where
  first c hc := h.last c (List.head?_reverse ▸ hc)
  last c hc := h.first c (List.getLast?_reverse ▸ hc)

theorem dropWhile_of_head {cs : List Char} (h : ∀ c ∈ cs.head?, isBlank c = false) :
    cs.dropWhile isBlank = cs := by
  cases cs with
  | nil => rfl
  | cons c rest =>
    have hc := h c rfl
    rw [List.dropWhile_cons, if_neg (Bool.eq_false_iff.mp hc)]

theorem trimChars_bare {cs : List Char} (h : Bare cs) : trimChars cs = cs := by
  unfold trimChars
  rw [dropWhile_of_head h.first, dropWhile_of_head h.reverse.first, List.reverse_reverse]

theorem dropWhile_padded {front cs : List Char} (hfront : Blanks front) :
    (front ++ cs).dropWhile isBlank = cs.dropWhile isBlank :=
  List.dropWhile_append_of_pos hfront

/-- Trimming takes the blanks away that stand around a text without blanks at its ends. -/
theorem trimChars_padded {front cs back : List Char} (hfront : Blanks front) (hback : Blanks back)
    (h : Bare cs) : trimChars (front ++ cs ++ back) = cs := by
  have hleft : (front ++ cs ++ back).dropWhile isBlank = (cs ++ back).dropWhile isBlank := by
    rw [List.append_assoc, dropWhile_padded hfront]
  unfold trimChars
  rw [hleft]
  cases cs with
  | nil =>
    rw [List.nil_append, List.dropWhile_eq_nil_iff.mpr hback]
    rfl
  | cons c rest =>
    have hfirst : (c :: rest ++ back).dropWhile isBlank = c :: rest ++ back :=
      dropWhile_of_head h.first
    have hright : Blanks back.reverse := fun d hd => hback d (List.mem_reverse.mp hd)
    rw [hfirst, List.reverse_append, dropWhile_padded hright, dropWhile_of_head h.reverse.first,
      List.reverse_reverse]

theorem blanks_takeWhile (cs : List Char) : Blanks (cs.takeWhile isBlank) :=
  fun _ hc => List.mem_takeWhile_imp hc

theorem not_blank_head?_dropWhile {cs : List Char} {c : Char}
    (h : c ∈ (cs.dropWhile isBlank).head?) : isBlank c = false := by
  have hhead := List.head?_dropWhile_not isBlank cs
  rwa [Option.mem_def.mp h] at hhead

/-- What stands behind the blanks at the start is the trimmed text and blanks. -/
theorem exists_dropWhile_eq (cs : List Char) :
    ∃ back, cs.dropWhile isBlank = trimChars cs ++ back ∧ Blanks back := by
  obtain ⟨inner, hinner⟩ : ∃ inner, inner = cs.dropWhile isBlank := ⟨_, rfl⟩
  refine ⟨(inner.reverse.takeWhile isBlank).reverse, ?_, fun c hc =>
    blanks_takeWhile _ c (List.mem_reverse.mp hc)⟩
  unfold trimChars
  rw [← hinner, ← List.reverse_append, List.takeWhile_append_dropWhile, List.reverse_reverse]

/-- A text is the trimmed text with blanks around it. -/
theorem exists_padding (cs : List Char) :
    ∃ front back, cs = front ++ trimChars cs ++ back ∧ Blanks front ∧ Blanks back := by
  obtain ⟨back, hinner, hback⟩ := exists_dropWhile_eq cs
  refine ⟨cs.takeWhile isBlank, back, ?_, blanks_takeWhile cs, hback⟩
  rw [List.append_assoc, ← hinner, List.takeWhile_append_dropWhile]

theorem mem_trimChars {cs : List Char} {c : Char} (h : c ∈ cs) (hc : isBlank c = false) :
    c ∈ trimChars cs := by
  obtain ⟨front, back, hcs, hfront, hback⟩ := exists_padding cs
  have hnot : ∀ {ds : List Char}, Blanks ds → c ∉ ds := fun hds hmem =>
    Bool.eq_false_iff.mp hc (hds c hmem)
  rw [hcs, List.mem_append, List.mem_append] at h
  rcases h with (h | h) | h
  · exact absurd h (hnot hfront)
  · exact h
  · exact absurd h (hnot hback)

theorem bare_trimChars (cs : List Char) : Bare (trimChars cs) where
  first c hc := by
    obtain ⟨back, hinner, -⟩ := exists_dropWhile_eq cs
    have hmem : c ∈ (cs.dropWhile isBlank).head? := by
      rw [hinner, List.head?_append, Option.mem_def.mp hc]
      rfl
    exact not_blank_head?_dropWhile hmem
  last c hc := by
    unfold trimChars at hc
    rw [List.getLast?_reverse] at hc
    exact not_blank_head?_dropWhile hc

theorem trimChars_eq_iff {cs : List Char} : trimChars cs = cs ↔ Bare cs :=
  ⟨fun h => h ▸ bare_trimChars cs, trimChars_bare⟩

end CloudGate.Text
