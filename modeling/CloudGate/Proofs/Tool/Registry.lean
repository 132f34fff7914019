import CloudGate.Proofs.Fields
import CloudGate.Tool.Registry

/-!
Registries as they are put together: what is registered can be found again, and nothing else.

* `mem_all_registerAll`: every tool of a registry was registered.
* `get?_registerAll`: tools of different names do not drive each other out.
* `find?_eq`: a name that is no tool's leads one step further, to the tool of its alias.
* `Keyed.find?_name`: where every tool stands under its own name, that name leads back to it.
-/

namespace CloudGate.Registry

/-! ## Nothing but what was registered -/

theorem mem_all_register {r : Registry} {t t' : Tool} (h : t' ∈ (r.register t).all) :
    t' = t ∨ t' ∈ r.all := by
  obtain ⟨p, hp, rfl⟩ := List.mem_map.mp h
  rcases Fields.mem_insert hp with rfl | hp
  · exact Or.inl rfl
  · exact Or.inr (List.mem_map_of_mem hp)

theorem mem_all_registerAll {r : Registry} {ts : List Tool} {t : Tool}
    (h : t ∈ (r.registerAll ts).all) : t ∈ ts ∨ t ∈ r.all := by
  induction ts generalizing r with
  | nil => exact Or.inr h
  | cons u rest ih =>
    rcases ih h with hmem | hmem
    · exact Or.inl (List.mem_cons_of_mem _ hmem)
    · rcases mem_all_register hmem with rfl | hold
      · exact Or.inl (List.mem_cons_self ..)
      · exact Or.inr hold

theorem tools_addAliases (r : Registry) (pairs : List (String × String)) :
    (r.addAliases pairs).tools = r.tools := by
  unfold addAliases
  induction pairs generalizing r with
  | nil => rfl
  | cons p rest ih => exact ih (r.addAlias p.1 p.2)

/-! ## All that was registered -/

theorem mem_all_of_get? {r : Registry} {name : String} {t : Tool} (h : r.get? name = some t) :
    t ∈ r.all :=
  List.mem_map_of_mem (Fields.mem_of_get? h)

theorem mem_all_of_find? {r : Registry} {name : String} {t : Tool} (h : r.find? name = some t) :
    t ∈ r.all := by
  obtain ⟨canonical, -, hget⟩ := Option.bind_eq_some_iff.mp h
  exact mem_all_of_get? hget

theorem get?_register (r : Registry) (t : Tool) (name : String) :
    (r.register t).get? name = if name = t.name then some t else r.get? name :=
  Fields.get?_insert r.tools t.name name t

theorem get?_registerAll_of_ne {ts : List Tool} {name : String} (h : ∀ t ∈ ts, t.name ≠ name)
    (r : Registry) : (r.registerAll ts).get? name = r.get? name := by
  induction ts generalizing r with
  | nil => rfl
  | cons u rest ih =>
    obtain ⟨hu, hrest⟩ := List.forall_mem_cons.mp h
    have hsame := ih hrest (r.register u)
    rw [get?_register, if_neg (Ne.symm hu)] at hsame
    exact hsame

theorem get?_registerAll {ts : List Tool} (hdistinct : (ts.map (·.name)).Nodup) {t : Tool}
    (ht : t ∈ ts) (r : Registry) : (r.registerAll ts).get? t.name = some t := by
  induction ts generalizing r with
  | nil => contradiction
  | cons u rest ih =>
    obtain ⟨hnew, hrest⟩ := List.nodup_cons.mp hdistinct
    rcases List.mem_cons.mp ht with rfl | ht
    · have hothers : ∀ v ∈ rest, v.name ≠ t.name :=
        fun v hv heq => hnew (List.mem_map.mpr ⟨v, hv, heq⟩)
      have hlast := get?_registerAll_of_ne hothers (r.register t)
      rw [get?_register, if_pos rfl] at hlast
      exact hlast
    · exact ih hrest ht (r.register u)

/-! ## Looking up -/

/-- A name that is no tool's leads to the tool that its alias names, and no further. -/
theorem find?_eq (r : Registry) (name : String) :
    r.find? name = (r.get? name).or ((r.resolveAlias? name).bind r.get?) := by
  unfold find? resolve?
  cases htool : r.get? name with
  | some t =>
    have hcontains : r.tools.contains name = true := Option.isSome_of_eq_some htool
    rw [if_pos hcontains, Option.bind_some, htool, Option.some_or]
  | none =>
    have hcontains : ¬ r.tools.contains name = true := by
      rw [Fields.contains, show r.tools.get? name = none from htool]
      exact Bool.false_ne_true
    rw [if_neg hcontains, Option.none_or]

theorem find?_of_get? {r : Registry} {name : String} {t : Tool} (h : r.get? name = some t) :
    r.find? name = some t := by
  rw [find?_eq, h, Option.some_or]

/-! ## Tools under their names -/

/-- Each tool stands under its own name. -/
def Keyed (r : Registry) : Prop := ∀ name t, r.get? name = some t → t.name = name

/-- A tool that is found under an alias is found under its name, too. -/
theorem Keyed.find?_name {r : Registry} (h : Keyed r) {name : String} {t : Tool}
    (ht : r.find? name = some t) : r.find? t.name = some t := by
  obtain ⟨canonical, -, hget⟩ := Option.bind_eq_some_iff.mp ht
  have hname := h canonical t hget
  subst hname
  exact find?_of_get? hget

end CloudGate.Registry
