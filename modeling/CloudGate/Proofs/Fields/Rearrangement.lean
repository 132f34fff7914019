import CloudGate.Proofs.Fields
import Mathlib.Data.List.Nodup

/-!
Maps up to the order of their members: what is put in, taken out or moved is neither lost nor
doubled.

* `insert_perm`, `perm_erase`: one member more, one member less.
* `filterMap_get?_perm`: looking names up finds each member under them once.
* `ofList_perm`, `ofList_of_sorted`: pairs of different names make a map of just these pairs.
-/

namespace CloudGate.Fields

variable {α β : Type}

/-! ## Names -/

theorem mem_names_iff {fields : Fields α} {name : String} :
    name ∈ fields.names ↔ ∃ v, fields.get? name = some v := by
  induction fields with
  | nil => simp [names, get?]
  | cons p rest ih =>
    obtain ⟨n, v⟩ := p
    have hcons : names ((n, v) :: rest) = n :: names rest := rfl
    rw [hcons, List.mem_cons, ih]
    by_cases hn : n = name
    · simp [get?, hn]
    · simp [get?, hn, Ne.symm hn]

theorem get?_eq_none_iff {fields : Fields α} {name : String} :
    fields.get? name = none ↔ name ∉ fields.names := by
  rw [mem_names_iff]
  cases fields.get? name with
  | none => simp
  | some v => simp

theorem contains_iff {fields : Fields α} {name : String} :
    fields.contains name = true ↔ name ∈ fields.names := by
  rw [contains, Option.isSome_iff_exists, mem_names_iff]

/-- In a sorted map each name stands once. -/
theorem sorted_of_names {fields : Fields α} (h : fields.names.Pairwise (· < ·)) : Sorted fields :=
  List.pairwise_map.mp h

theorem Sorted.names_nodup {fields : Fields α} (h : Sorted fields) : fields.names.Nodup :=
  List.pairwise_map.mpr (h.imp fun hlt => String.ne_of_lt hlt)

theorem Sorted.get?_tail {name : String} {v : α} {rest : Fields α}
    (h : Sorted ((name, v) :: rest)) : get? rest name = none :=
  get?_eq_none fun p hp => (String.ne_of_lt ((List.pairwise_cons.mp h).1 p hp)).symm

theorem Sorted.mem_iff {fields : Fields α} (h : Sorted fields) {name : String} {v : α} :
    (name, v) ∈ fields ↔ fields.get? name = some v := by
  refine ⟨fun hp => ?_, mem_of_get?⟩
  induction fields with
  | nil => contradiction
  | cons q rest ih =>
    obtain ⟨n, w⟩ := q
    rcases List.mem_cons.mp hp with heq | hp
    · obtain ⟨rfl, rfl⟩ := Prod.mk.inj heq
      exact if_pos rfl
    · have hlt : n < name := (List.pairwise_cons.mp h).1 _ hp
      rw [get?, if_neg (String.ne_of_lt hlt)]
      exact ih h.tail hp

theorem Sorted.nodup {fields : Fields α} (h : Sorted fields) : fields.Nodup :=
  List.Nodup.of_map _ h.names_nodup

theorem Sorted.filter {fields : Fields α} (h : Sorted fields) (keep : String × α → Bool) :
    Sorted (List.filter keep fields) :=
  List.Pairwise.filter keep h

/-- Collecting pairs keeps their names. -/
theorem mem_names_ofList {pairs : List (String × α)} {name : String} :
    name ∈ (ofList pairs).names ↔ name ∈ pairs.map (·.1) := by
  rw [← contains_iff, contains, get?_ofList, Option.isSome_map, List.find?_isSome]
  simp only [List.mem_reverse, beq_iff_eq, List.mem_map]

theorem mem_of_mem_ofList {pairs : List (String × α)} {p : String × α}
    (h : p ∈ ofList pairs) : p ∈ pairs := by
  have hget := (sorted_ofList pairs).mem_iff.mp h
  rw [get?_ofList, Option.map_eq_some_iff] at hget
  obtain ⟨q, hq, hvalue⟩ := hget
  have hname : q.1 = p.1 := by simpa using List.find?_some hq
  have hmem := List.mem_reverse.mp (List.mem_of_find?_eq_some hq)
  rwa [Prod.ext hname hvalue] at hmem

/-! ## One member -/

/-- A new name comes on top of what was there. -/
theorem insert_perm {fields : Fields α} {name : String} (h : fields.get? name = none) (value : α) :
    (fields.insert name value).Perm ((name, value) :: fields) := by
  induction fields with
  | nil => exact .refl _
  | cons p rest ih =>
    obtain ⟨n, v⟩ := p
    unfold get? at h
    split at h
    · contradiction
    · rename_i hn
      rw [insert, if_neg hn]
      split
      · exact .refl _
      · exact ((ih h).cons _).trans (.swap _ _ _)

/-- What stands under a name, and the rest. -/
theorem perm_erase {fields : Fields α} {name : String} {v : α} (h : fields.get? name = some v) :
    fields.Perm ((name, v) :: fields.erase name) := by
  induction fields with
  | nil => contradiction
  | cons p rest ih =>
    obtain ⟨n, w⟩ := p
    unfold get? at h
    split at h
    · rename_i hn
      obtain rfl := Option.some.inj h
      rw [erase, if_pos hn, hn]
    · rename_i hn
      rw [erase, if_neg hn]
      exact ((ih h).cons _).trans (.swap _ _ _)

/-- What was put in is taken out again. -/
theorem erase_insert {fields : Fields α} {name : String} (h : fields.get? name = none)
    (value : α) : (fields.insert name value).erase name = fields := by
  induction fields with
  | nil => simp [insert, erase]
  | cons p rest ih =>
    obtain ⟨n, v⟩ := p
    have hn : n ≠ name := by
      rintro rfl
      simp [get?] at h
    rw [get?, if_neg hn] at h
    unfold insert
    rw [if_neg hn]
    split
    · rw [erase, if_pos rfl]
    · rw [erase, if_neg hn, ih h]

theorem Sorted.erase {fields : Fields α} (h : Sorted fields) (name : String) :
    Sorted (fields.erase name) := by
  rw [erase_eq_filter h]
  exact h.filter _

/-- A value takes the place of the one that stood under its name. -/
theorem insert_perm_erase {fields : Fields α} (h : Sorted fields) (name : String) (value : α) :
    (fields.insert name value).Perm ((name, value) :: fields.erase name) := by
  have herase := h.erase name
  have hnew : (name, value) ∉ fields.erase name := by
    rw [herase.mem_iff, get?_erase_self h]
    exact nofun
  refine (List.perm_ext_iff_of_nodup (h.insert name value).nodup
    (List.nodup_cons.mpr ⟨hnew, herase.nodup⟩)).mpr fun p => ?_
  obtain ⟨key, v⟩ := p
  rw [(h.insert name value).mem_iff, get?_insert, List.mem_cons, herase.mem_iff, Prod.mk.injEq]
  by_cases hkey : key = name
  · subst hkey
    simp [get?_erase_self h, eq_comm]
  · simp [hkey, get?_erase_of_ne fields hkey]

/-! ## Several members -/

/-- Taking out several names. -/
theorem foldl_erase_eq_filter {fields : Fields α} (h : Sorted fields) (names : List String) :
    names.foldl (fun left n => left.erase n) fields = fields.filter fun p => p.1 ∉ names := by
  induction names generalizing fields with
  | nil => exact (List.filter_eq_self.mpr fun _ _ => by simp).symm
  | cons name rest ih =>
    rw [List.foldl_cons, ih (h.erase name), erase_eq_filter h, List.filter_filter]
    refine List.filter_congr fun p _ => ?_
    by_cases hp : p.1 = name
    · simp [hp]
    · simp [hp]

/-- Looking several names up finds each member under them once. -/
theorem filterMap_get?_perm {fields : Fields α} (h : Sorted fields) {names : List String}
    (hnames : names.Nodup) :
    (names.filterMap fun n => (fields.get? n).map fun v => (n, v)).Perm
      (fields.filter fun p => p.1 ∈ names) := by
  have hfound : (names.filterMap fun n => (fields.get? n).map fun v => (n, v)).Nodup := by
    refine hnames.filterMap fun n n' p hp hp' => ?_
    obtain ⟨v, -, rfl⟩ := Option.map_eq_some_iff.mp hp
    obtain ⟨v', -, heq⟩ := Option.map_eq_some_iff.mp hp'
    exact (Prod.mk.inj heq).1.symm
  have hkept : (fields.filter fun p => p.1 ∈ names).Nodup :=
    h.nodup.filter _
  refine (List.perm_ext_iff_of_nodup hfound hkept).mpr fun p => ?_
  obtain ⟨name, v⟩ := p
  simp only [List.mem_filterMap, Option.map_eq_some_iff, Prod.mk.injEq, List.mem_filter,
    decide_eq_true_eq]
  constructor
  · rintro ⟨n, hn, w, hget, rfl, rfl⟩
    exact ⟨mem_of_get? hget, hn⟩
  · rintro ⟨hmem, hname⟩
    exact ⟨name, hname, v, h.mem_iff.mp hmem, rfl, rfl⟩

/-- Pairs of different names are all kept. -/
theorem ofList_perm {pairs : List (String × α)} (h : (pairs.map (·.1)).Nodup) :
    (ofList pairs).Perm pairs := by
  have hfrom : ∀ fields : Fields α, (∀ p ∈ pairs, fields.get? p.1 = none) →
      (pairs.foldl (fun fields p => fields.insert p.1 p.2) fields).Perm (pairs ++ fields) := by
    induction pairs with
    | nil => exact fun _ _ => .refl _
    | cons p rest ih =>
      intro fields hnew
      obtain ⟨hp, hrest⟩ := List.nodup_cons.mp h
      obtain ⟨hfirst, hothers⟩ := List.forall_mem_cons.mp hnew
      have hstill : ∀ q ∈ rest, (fields.insert p.1 p.2).get? q.1 = none := by
        intro q hq
        have hne : q.1 ≠ p.1 := fun heq => hp (List.mem_map.mpr ⟨q, hq, heq⟩)
        rw [get?_insert, if_neg hne]
        exact hothers q hq
      have hone := (insert_perm hfirst p.2).append_left rest
      exact (ih hrest _ hstill).trans (hone.trans List.perm_middle)
  have hall := hfrom [] fun _ _ => rfl
  rw [List.append_nil] at hall
  exact hall

/-- Pairs that are in order are put in as they are. -/
theorem ofList_of_sorted {fields : Fields α} (h : Sorted fields) : ofList fields = fields := by
  refine List.Perm.eq_of_pairwise (fun p q _ _ hpq hqp => ?_) (sorted_ofList fields) h
    (ofList_perm h.names_nodup)
  exact absurd hqp (String.lt_asymm hpq)

end CloudGate.Fields
