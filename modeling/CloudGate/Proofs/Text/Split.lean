import CloudGate.Text.Split

/-!
Splitting undoes joining, as long as no piece has a separator in it, and joining undoes splitting.
Two texts with a separator between them are split each on its own. What stands after a beginning is
found exactly if the text has this beginning.
-/

namespace CloudGate.Text

/-- Text without a separator becomes part of the piece that follows it. -/
theorem splitBy_append {sep : Char} {front back piece : List Char} {more : List (List Char)}
    (hfront : sep ∉ front) (hback : splitBy sep back = piece :: more) :
    splitBy sep (front ++ back) = (front ++ piece) :: more := by
  induction front with
  | nil => exact hback
  | cons c rest ih =>
    rw [List.mem_cons, not_or] at hfront
    obtain ⟨hc, hrest⟩ := hfront
    rw [List.cons_append, splitBy, if_neg (Ne.symm hc), ih hrest]
    rfl

/-- Every piece behind a separator of its own, after an empty first piece. -/
theorem splitBy_flatMap {sep : Char} (pieces : List (List Char)) (h : ∀ p ∈ pieces, sep ∉ p) :
    splitBy sep (pieces.flatMap (sep :: ·)) = [] :: pieces := by
  induction pieces with
  | nil => rfl
  | cons p rest ih =>
    obtain ⟨hp, hrest⟩ := List.forall_mem_cons.mp h
    rw [List.flatMap_cons, List.cons_append, splitBy, if_pos rfl, splitBy_append hp (ih hrest),
      List.append_nil]

/-- Pieces with a separator between each two of them. -/
theorem splitBy_intercalate {sep : Char} {pieces : List (List Char)} (hne : pieces ≠ [])
    (h : ∀ p ∈ pieces, sep ∉ p) : splitBy sep ([sep].intercalate pieces) = pieces := by
  induction pieces with
  | nil => contradiction
  | cons p rest ih =>
    obtain ⟨hp, hrest⟩ := List.forall_mem_cons.mp h
    cases rest with
    | nil =>
      have hlast := splitBy_append hp (rfl : splitBy sep [] = [[]])
      rw [List.append_nil] at hlast
      rw [List.intercalate_singleton, hlast]
    | cons q more =>
      have hback := ih (List.cons_ne_nil q more) hrest
      have hjoined : splitBy sep (sep :: [sep].intercalate (q :: more)) = [] :: q :: more := by
        rw [splitBy, if_pos rfl, hback]
      rw [List.intercalate_cons_cons, List.append_assoc, List.singleton_append,
        splitBy_append hp hjoined, List.append_nil]

theorem splitBy_ne_nil (sep : Char) (cs : List Char) : splitBy sep cs ≠ [] := by
  cases cs with
  | nil => exact List.cons_ne_nil _ _
  | cons c rest =>
    unfold splitBy
    split
    · exact List.cons_ne_nil _ _
    · split
      · exact List.cons_ne_nil _ _
      · exact List.cons_ne_nil _ _

theorem intercalate_splitBy (sep : Char) (cs : List Char) :
    [sep].intercalate (splitBy sep cs) = cs := by
  induction cs with
  | nil => rfl
  | cons c rest ih =>
    cases hpieces : splitBy sep rest with
    | nil => exact absurd hpieces (splitBy_ne_nil sep rest)
    | cons piece more =>
      rw [hpieces] at ih
      unfold splitBy
      split
      · rename_i hsep
        rw [hpieces, List.intercalate_cons_cons, ih, hsep]
        rfl
      · rw [hpieces]
        cases more with
        | nil =>
          rw [List.intercalate_singleton] at ih ⊢
          rw [ih]
        | cons second more =>
          rw [List.intercalate_cons_cons] at ih ⊢
          rw [← ih]
          rfl

theorem splitBy_append_sep (sep : Char) (cs ds : List Char) :
    splitBy sep (cs ++ sep :: ds) = splitBy sep cs ++ splitBy sep ds := by
  induction cs with
  | nil => simp [splitBy]
  | cons c rest ih =>
    rw [List.cons_append, splitBy, splitBy, ih]
    cases hpieces : splitBy sep rest with
    | nil => exact absurd hpieces (splitBy_ne_nil sep rest)
    | cons piece more => split <;> rfl

/-- The text is cut where a separator stands for the first time. -/
theorem splitFirst?_eq_some {sep : Char} {cs before after : List Char} :
    splitFirst? sep cs = some (before, after) ↔ sep ∉ before ∧ cs = before ++ sep :: after := by
  constructor
  · intro h
    fun_induction splitFirst? sep cs generalizing before with
    | case1 => contradiction
    | case2 rest =>
      obtain ⟨rfl, rfl⟩ := Prod.mk.inj (Option.some.inj h)
      exact ⟨List.not_mem_nil, rfl⟩
    | case3 c rest hc ih =>
      obtain ⟨⟨front, back⟩, hrest, hsome⟩ := Option.map_eq_some_iff.mp h
      obtain ⟨rfl, rfl⟩ := Prod.mk.inj hsome
      obtain ⟨hfront, rfl⟩ := ih hrest
      exact ⟨by simp [Ne.symm hc, hfront], rfl⟩
  · rintro ⟨h, rfl⟩
    induction before with
    | nil => simp [splitFirst?]
    | cons c rest ih =>
      rw [List.mem_cons, not_or] at h
      rw [List.cons_append, splitFirst?, if_neg (Ne.symm h.1), ih h.2]
      rfl

/-- A text in front without the separator only makes the first part longer. -/
theorem splitFirst?_append {sep : Char} {front : List Char} (h : sep ∉ front) (cs : List Char) :
    splitFirst? sep (front ++ cs) =
      (splitFirst? sep cs).map fun (before, after) => (front ++ before, after) := by
  induction front with
  | nil => simp
  | cons c front ih =>
    rw [List.mem_cons, not_or] at h
    rw [List.cons_append, splitFirst?, if_neg (Ne.symm h.1), ih h.2, Option.map_map]
    rfl

theorem splitFirst?_of_not_mem {sep : Char} {cs : List Char} (h : sep ∉ cs) :
    splitFirst? sep cs = none := by
  have happend := splitFirst?_append h []
  rwa [List.append_nil] at happend

theorem afterPrefix?_eq_some {p cs rest : List Char} :
    afterPrefix? p cs = some rest ↔ cs = p ++ rest := by
  induction p generalizing cs with
  | nil => simp [afterPrefix?]
  | cons a p ih =>
    cases cs with
    | nil => simp [afterPrefix?]
    | cons c cs =>
      rw [afterPrefix?, Option.ite_none_right_eq_some, ih, List.cons_append, List.cons.injEq,
        eq_comm]

end CloudGate.Text
