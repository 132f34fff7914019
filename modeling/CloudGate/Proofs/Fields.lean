import CloudGate.Fields

/-!
Laws of the maps: what is found under a name after something was put in or taken out, what stands
under any of several names, and the order of the names.
-/

namespace CloudGate.Fields

variable {α β : Type}

/-! ## Looking up -/

theorem get?_insert (fields : Fields α) (name key : String) (value : α) :
    (fields.insert name value).get? key = if key = name then some value else fields.get? key := by
  induction fields with
  | nil => simp only [insert, get?, eq_comm]
  | cons p rest ih =>
    obtain ⟨n, v⟩ := p
    unfold insert
    by_cases hn : n = name
    · subst hn
      by_cases hk : key = n
      · simp [get?, hk]
      · simp [get?, hk, Ne.symm hk]
    · rw [if_neg hn]
      split
      · simp only [get?, eq_comm]
      · by_cases hk : n = key
        · subst hk
          simp [get?, hn]
        · simp [get?, hk, ih]

theorem get?_erase_of_ne (fields : Fields α) {name key : String} (h : key ≠ name) :
    (fields.erase name).get? key = fields.get? key := by
  induction fields with
  | nil => rfl
  | cons p rest ih =>
    obtain ⟨n, v⟩ := p
    by_cases hn : n = name
    · subst hn
      simp [erase, get?, Ne.symm h]
    · simp [erase, hn, get?, ih]

theorem get?_eq_none {fields : Fields α} {name : String} (h : ∀ p ∈ fields, p.1 ≠ name) :
    fields.get? name = none := by
  induction fields with
  | nil => rfl
  | cons p rest ih =>
    obtain ⟨n, v⟩ := p
    obtain ⟨hn, hrest⟩ := List.forall_mem_cons.mp h
    simp only [get?, if_neg hn]
    exact ih hrest

theorem get?_mapValues (fields : Fields α) (f : String → α → β) (name : String) :
    (fields.mapValues f).get? name = (fields.get? name).map (f name) := by
  induction fields with
  | nil => rfl
  | cons p rest ih =>
    obtain ⟨n, v⟩ := p
    by_cases hn : n = name
    · subst hn
      simp [mapValues, get?]
    · have hcons : mapValues ((n, v) :: rest) f = (n, f n v) :: mapValues rest f := rfl
      simp only [hcons, get?, if_neg hn, ih]

/-- Of equal names the last one counts. -/
theorem get?_ofList (pairs : List (String × α)) (name : String) :
    (ofList pairs).get? name = (pairs.reverse.find? fun p => p.1 == name).map (·.2) := by
  have hfrom : ∀ fields : Fields α,
      (pairs.foldl (fun fields p => fields.insert p.1 p.2) fields).get? name =
        ((pairs.reverse.find? fun p => p.1 == name).map (·.2)).or (fields.get? name) := by
    induction pairs with
    | nil => exact fun _ => rfl
    | cons p rest ih =>
      intro fields
      rw [List.foldl_cons, ih, get?_insert, List.reverse_cons, List.find?_append]
      cases rest.reverse.find? fun p => p.1 == name with
      | some q => rfl
      | none =>
        by_cases hn : name = p.1
        · simp [hn]
        · simp [hn, Ne.symm hn]
  have hempty := hfrom []
  rw [get?, Option.or_none] at hempty
  exact hempty

theorem mem_of_get? {fields : Fields α} {name : String} {v : α} (h : fields.get? name = some v) :
    (name, v) ∈ fields := by
  induction fields with
  | nil => simp [get?] at h
  | cons p rest ih =>
    obtain ⟨n, w⟩ := p
    by_cases hn : n = name
    · subst hn
      simp only [get?, ↓reduceIte, Option.some.injEq] at h
      subst h
      exact List.mem_cons_self ..
    · simp only [get?, hn, ↓reduceIte] at h
      exact List.mem_cons_of_mem _ (ih h)

theorem mem_of_mem_erase {fields : Fields α} {name : String} {p : String × α}
    (h : p ∈ fields.erase name) : p ∈ fields := by
  induction fields with
  | nil => exact h
  | cons q rest ih =>
    obtain ⟨n, v⟩ := q
    unfold erase at h
    split at h
    · exact List.mem_cons_of_mem _ h
    · rcases List.mem_cons.mp h with e | e
      · exact e ▸ List.mem_cons_self ..
      · exact List.mem_cons_of_mem _ (ih e)

theorem mem_insert {fields : Fields α} {name : String} {value : α} {p : String × α}
    (h : p ∈ fields.insert name value) : p = (name, value) ∨ p ∈ fields := by
  induction fields with
  | nil =>
    simp only [insert, List.mem_singleton] at h
    exact Or.inl h
  | cons q rest ih =>
    obtain ⟨n, v⟩ := q
    unfold insert at h
    split at h
    · rcases List.mem_cons.mp h with e | e
      · exact Or.inl e
      · exact Or.inr (List.mem_cons_of_mem _ e)
    · split at h
      · exact List.mem_cons.mp h
      · rcases List.mem_cons.mp h with e | e
        · exact Or.inr (e ▸ List.mem_cons_self ..)
        · exact (ih e).imp_right (List.mem_cons_of_mem _)

theorem mapValues_insert (f : α → β) (fields : Fields α) (name : String) (v : α) :
    (fields.insert name v).mapValues (fun _ => f) =
      (fields.mapValues fun _ => f).insert name (f v) := by
  induction fields with
  | nil => rfl
  | cons p rest ih =>
    obtain ⟨n, w⟩ := p
    unfold mapValues at ih ⊢
    simp only [insert, List.map_cons]
    split
    · rfl
    · split
      · rfl
      · rw [List.map_cons, ih]

/-! ## Several names for one thing -/

section Under

variable {names : List String}

/-- The values that stand under one of the names. -/
def under (names : List String) (fields : Fields α) : List α :=
  (fields.filter fun p => p.1 ∈ names).map (·.2)

theorem under_cons_of_mem {name : String} (h : name ∈ names) (v : α) (rest : Fields α) :
    under names ((name, v) :: rest) = v :: under names rest := by
  simp [under, h]

theorem under_cons_of_not_mem {name : String} (h : name ∉ names) (v : α) (rest : Fields α) :
    under names ((name, v) :: rest) = under names rest := by
  simp [under, h]

theorem under_insert_of_not_mem {name : String} (h : name ∉ names) (v : α) (fields : Fields α) :
    under names (fields.insert name v) = under names fields := by
  induction fields with
  | nil => rw [insert, under_cons_of_not_mem h]
  | cons p rest ih =>
    obtain ⟨n, w⟩ := p
    unfold insert
    split
    · rename_i heq
      subst heq
      rw [under_cons_of_not_mem h, under_cons_of_not_mem h]
    · split
      · rw [under_cons_of_not_mem h]
      · by_cases hn : n ∈ names
        · rw [under_cons_of_mem hn, under_cons_of_mem hn, ih]
        · rw [under_cons_of_not_mem hn, under_cons_of_not_mem hn, ih]

theorem under_insert_of_nil {name : String} (h : name ∈ names) (v : α) {fields : Fields α}
    (hnil : under names fields = []) : under names (fields.insert name v) = [v] := by
  induction fields with
  | nil => rw [insert, under_cons_of_mem h, hnil]
  | cons p rest ih =>
    obtain ⟨n, w⟩ := p
    have hn : n ∉ names := fun hmem => by
      rw [under_cons_of_mem hmem] at hnil
      contradiction
    have hrest := hnil
    rw [under_cons_of_not_mem hn] at hrest
    unfold insert
    split
    · rename_i heq
      exact absurd (heq ▸ h) hn
    · split
      · rw [under_cons_of_mem h, hnil]
      · rw [under_cons_of_not_mem hn, ih hrest]

/-- An object made of members keeps what stands under names that are not doubled. -/
theorem under_ofList {pairs : List (String × α)} (h : (under names pairs).length ≤ 1) :
    under names (ofList pairs) = under names pairs := by
  have hfrom : ∀ fields : Fields α, (under names fields ++ under names pairs).length ≤ 1 →
      under names (pairs.foldl (fun fields p => fields.insert p.1 p.2) fields) =
        under names fields ++ under names pairs := by
    clear h
    induction pairs with
    | nil => simp [under]
    | cons p rest ih =>
      obtain ⟨n, v⟩ := p
      intro fields hfields
      rw [List.foldl_cons]
      by_cases hn : n ∈ names
      · rw [under_cons_of_mem hn] at hfields ⊢
        have hnil : under names fields = [] := by
          simp only [List.length_append, List.length_cons] at hfields
          exact List.length_eq_zero_iff.mp (by omega)
        have hone := under_insert_of_nil hn v hnil
        rw [ih _ (by simpa [hone, hnil] using hfields), hone, hnil]
        rfl
      · rw [under_cons_of_not_mem hn] at hfields ⊢
        have hsame := under_insert_of_not_mem hn v fields
        rw [ih _ (by rwa [hsame]), hsame]
  exact hfrom [] h

end Under

/-! ## Sorted maps -/

theorem Sorted.tail {p : String × α} {rest : Fields α} (h : Sorted (p :: rest)) : Sorted rest :=
  (List.pairwise_cons.mp h).2

/-- Each name stands only once, so that taking a name out leaves exactly the others. -/
theorem erase_eq_filter {fields : Fields α} (h : Sorted fields) (name : String) :
    fields.erase name = fields.filter fun p => p.1 ≠ name := by
  induction fields with
  | nil => rfl
  | cons p rest ih =>
    obtain ⟨n, v⟩ := p
    by_cases hn : n = name
    · subst hn
      have hrest : ∀ q ∈ rest, q.1 ≠ n := fun q hq =>
        (String.ne_of_lt ((List.pairwise_cons.mp h).1 q hq)).symm
      rw [erase, if_pos rfl, List.filter_cons_of_neg (by simp),
        List.filter_eq_self.mpr fun q hq => by simpa using hrest q hq]
    · rw [erase, if_neg hn, ih h.tail, List.filter_cons_of_pos (by simpa using hn)]

/-- What is taken out of a sorted map is gone. -/
theorem get?_erase_self {fields : Fields α} (h : Sorted fields) (name : String) :
    (fields.erase name).get? name = none := by
  rw [erase_eq_filter h]
  exact get?_eq_none fun p hp => by simpa using (List.mem_filter.mp hp).2

/-- Putting a value in keeps the order: what the place before it is passed for is smaller. -/
theorem Sorted.insert {fields : Fields α} (h : Sorted fields) (name : String) (value : α) :
    Sorted (fields.insert name value) := by
  induction fields with
  | nil => exact List.pairwise_singleton _ _
  | cons p rest ih =>
    obtain ⟨n, v⟩ := p
    obtain ⟨hfirst, hrest⟩ := List.pairwise_cons.mp h
    unfold Fields.insert
    by_cases hn : n = name
    · subst hn
      rw [if_pos rfl]
      exact List.pairwise_cons.mpr ⟨hfirst, hrest⟩
    · rw [if_neg hn]
      by_cases hlt : name < n
      · rw [if_pos hlt]
        refine List.pairwise_cons.mpr ⟨fun q hq => ?_, h⟩
        rcases List.mem_cons.mp hq with rfl | hq
        · exact hlt
        · exact String.lt_trans hlt (hfirst q hq)
      · rw [if_neg hlt]
        have hgt : n < name := by
          refine Decidable.byContradiction fun hle => hn ?_
          exact String.le_antisymm (String.not_lt.mp hlt) (String.not_lt.mp hle)
        refine List.pairwise_cons.mpr ⟨fun q hq => ?_, ih hrest⟩
        rcases mem_insert hq with rfl | hq
        · exact hgt
        · exact hfirst q hq

theorem Sorted.mapValues {fields : Fields α} (h : Sorted fields) (f : String → α → β) :
    Sorted (fields.mapValues f) :=
  List.pairwise_map.mpr h

theorem sorted_ofList (pairs : List (String × α)) : Sorted (ofList pairs) := by
  have hfrom : ∀ fields : Fields α, Sorted fields →
      Sorted (pairs.foldl (fun fields p => fields.insert p.1 p.2) fields) := by
    induction pairs with
    | nil => exact fun _ h => h
    | cons p rest ih => exact fun fields h => ih _ (h.insert p.1 p.2)
  exact hfrom [] List.Pairwise.nil

end CloudGate.Fields
