import CloudGate.Proofs.Fields.Rearrangement
import CloudGate.Proofs.Invocation.Session
import CloudGate.Proofs.Tool.Registry
import Mathlib.Data.List.Dedup

/-!
What a registry holds after any sequence of registrations.

* `apply_eq`, `build_eq`: tools and aliases are collected apart from each other, so that only the
  order of the tools and the order of the aliases matter.
* `build_remembers`: of the registrations of a name the last one counts, names come before aliases,
  and each tool is found under its own name.
-/

namespace CloudGate

theorem Tool.isGated_iff (t : Tool) : t.isGated = true ↔ t.classifications ≠ [] := by
  simp [isGated]

namespace Registration

/-- The tools that come with a registration. -/
def tools : Registration → List Tool
  | .addTool t => [t]
  | .addTools ts => ts
  | .addAlias _ _ | .addAliases _ => []

/-- The aliases that come with a registration, each before the name that it stands for. -/
def aliases : Registration → List (String × String)
  | .addAlias spelling canonical => [(spelling, canonical)]
  | .addAliases pairs => pairs
  | .addTool _ | .addTools _ => []

end Registration

namespace Registry

/-! ## Histories -/

/-- All tools that were registered, first to last. -/
def toolsOf (steps : List Registration) : List Tool := steps.flatMap (·.tools)

/-- All aliases that were registered, first to last. -/
def aliasesOf (steps : List Registration) : List (String × String) := steps.flatMap (·.aliases)

/-- The last tool that was registered under a name. -/
def lastTool? (steps : List Registration) (name : String) : Option Tool :=
  (toolsOf steps).reverse.find? (·.name == name)

/-- The name that an alias was last registered for. -/
def lastAlias? (steps : List Registration) (spelling : String) : Option String :=
  ((aliasesOf steps).reverse.find? (·.1 == spelling)).map (·.2)

/-- A tool under its name. -/
def entry (t : Tool) : String × Tool := (t.name, t)

/-! ## One registration -/

theorem registerAll_eq (r : Registry) (ts : List Tool) :
    r.registerAll ts =
      { r with tools := (ts.map entry).foldl (fun fields p => fields.insert p.1 p.2) r.tools } := by
  unfold registerAll
  induction ts generalizing r with
  | nil => rfl
  | cons t rest ih => exact ih (r.register t)

theorem addAliases_eq (r : Registry) (pairs : List (String × String)) :
    r.addAliases pairs =
      { r with aliases := pairs.foldl (fun fields p => fields.insert p.1 p.2) r.aliases } := by
  unfold addAliases
  induction pairs generalizing r with
  | nil => rfl
  | cons p rest ih => exact ih (r.addAlias p.1 p.2)

/-- Tools go to the tools and aliases go to the aliases. -/
theorem apply_eq (r : Registry) (step : Registration) :
    r.apply step =
      { tools := (step.tools.map entry).foldl (fun fields p => fields.insert p.1 p.2) r.tools
        aliases := step.aliases.foldl (fun fields p => fields.insert p.1 p.2) r.aliases } := by
  cases step with
  | addTool t => rfl
  | addTools ts => exact r.registerAll_eq ts
  | addAlias spelling canonical => rfl
  | addAliases pairs => exact r.addAliases_eq pairs

/-! ## All registrations -/

theorem foldl_apply_eq (r : Registry) (steps : List Registration) :
    steps.foldl apply r =
      { tools := ((toolsOf steps).map entry).foldl (fun fields p => fields.insert p.1 p.2) r.tools
        aliases := (aliasesOf steps).foldl (fun fields p => fields.insert p.1 p.2) r.aliases } := by
  induction steps generalizing r with
  | nil => rfl
  | cons step rest ih =>
    simp only [toolsOf, aliasesOf, List.flatMap_cons, List.map_append, List.foldl_append,
      List.foldl_cons] at ih ⊢
    rw [ih, apply_eq]

/-- A registry is made of the tools and of the aliases, whatever came between them. -/
theorem build_eq (steps : List Registration) :
    build steps =
      { tools := Fields.ofList ((toolsOf steps).map entry)
        aliases := Fields.ofList (aliasesOf steps) } :=
  foldl_apply_eq empty steps

theorem get?_build (steps : List Registration) (name : String) :
    (build steps).get? name = lastTool? steps name := by
  have hnames : ((fun p : String × Tool => p.1 == name) ∘ entry) = fun t => t.name == name := rfl
  have htools : (·.2) ∘ entry = id := rfl
  rw [build_eq, get?, Fields.get?_ofList, ← List.map_reverse, List.find?_map, Option.map_map,
    hnames, htools, Option.map_id]
  rfl

theorem keyed_build (steps : List Registration) : (build steps).Keyed := by
  intro name t ht
  rw [get?_build] at ht
  have hname := List.find?_some ht
  exact beq_iff_eq.mp hname

theorem resolveAlias?_build (steps : List Registration) (spelling : String) :
    (build steps).resolveAlias? spelling = lastAlias? steps spelling := by
  rw [build_eq, resolveAlias?, Fields.get?_ofList]
  rfl

/-! ## Looking up -/

/-- Registrations without tools leave the tools as they are. -/
theorem get?_foldl_of_no_tools (r : Registry) {more : List Registration}
    (h : ∀ step ∈ more, step.tools = []) (name : String) :
    (more.foldl apply r).get? name = r.get? name := by
  have hnone : toolsOf more = [] := List.flatMap_eq_nil_iff.mpr h
  rw [foldl_apply_eq, hnone]
  rfl

/-! ## Counting -/

theorem names_ofList_perm {α : Type} (pairs : List (String × α)) :
    (Fields.ofList pairs).names.Perm (pairs.map (·.1)).dedup := by
  refine (List.perm_ext_iff_of_nodup (Fields.sorted_ofList pairs).names_nodup
    (List.nodup_dedup _)).mpr fun name => ?_
  rw [Fields.mem_names_ofList, List.mem_dedup]

theorem size_build (steps : List Registration) :
    (build steps).size = ((toolsOf steps).map (·.name)).dedup.length := by
  have hperm := names_ofList_perm ((toolsOf steps).map entry)
  have hnames : ((toolsOf steps).map entry).map (·.1) = (toolsOf steps).map (·.name) := by
    rw [List.map_map]
    rfl
  rw [hnames] at hperm
  rw [build_eq, size, ← hperm.length_eq, Fields.names, List.length_map]

/-- Each tool needs consent or needs none. -/
theorem gated_append_readOnly (r : Registry) : (r.gated ++ r.readOnly).Perm r.all :=
  List.filter_append_perm _ _

/-! ## The whole registry -/

/-- What a registry holds after a history of registrations. -/
structure Remembers (r : Registry) (steps : List Registration) : Prop where
  keyed : ∀ p ∈ r.tools, p.1 = p.2.name
  tool : ∀ name, r.get? name = lastTool? steps name
  /-- A name comes before an alias, and an alias leads to a name and not to an alias. -/
  found : ∀ name, r.find? name =
    (lastTool? steps name).or ((lastAlias? steps name).bind (lastTool? steps))
  canonical : ∀ name t, r.find? name = some t → r.find? t.name = some t
  /-- More aliases change nothing about the names of tools. -/
  firm : ∀ more : List Registration, (∀ step ∈ more, step.tools = []) → ∀ name t,
    r.get? name = some t →
      r.find? name = some t ∧ (more.foldl apply r).find? name = some t
  size : r.size = ((toolsOf steps).map (·.name)).dedup.length
  parted : (r.gated ++ r.readOnly).Perm r.all ∧ (∀ t ∈ r.gated, t.classifications ≠ []) ∧
    ∀ t ∈ r.readOnly, t.classifications = []
  /-- Only the order of the tools and the order of the aliases count. -/
  order : ∀ steps', toolsOf steps' = toolsOf steps → aliasesOf steps' = aliasesOf steps →
    build steps' = r

theorem build_remembers (steps : List Registration) : (build steps).Remembers steps where
  keyed := by
    -- Each name stands in the list once, so its entry is what a lookup finds.
    rintro ⟨name, t⟩ hp
    rw [build_eq, (Fields.sorted_ofList _).mem_iff] at hp
    have hget : (build steps).get? name = some t := by
      rw [build_eq]
      exact hp
    exact (keyed_build steps name t hget).symm
  tool := get?_build steps
  found := by
    intro name
    have hget : (build steps).get? = lastTool? steps := funext (get?_build steps)
    rw [find?_eq, hget, resolveAlias?_build]
  canonical := fun _ _ => (keyed_build steps).find?_name
  firm := by
    intro more hmore name t ht
    refine ⟨find?_of_get? ht, find?_of_get? ?_⟩
    rw [get?_foldl_of_no_tools _ hmore]
    exact ht
  size := size_build steps
  parted := by
    refine ⟨gated_append_readOnly _, fun t ht => ?_, fun t ht => ?_⟩
    · exact t.isGated_iff.mp (List.mem_filter.mp ht).2
    · have hfree := (List.mem_filter.mp ht).2
      by_contra hne
      rw [t.isGated_iff.mpr hne] at hfree
      contradiction
  order := by
    intro steps' htools haliases
    rw [build_eq, build_eq, htools, haliases]

/-- An alias of an alias leads nowhere. -/
example :
    let r := build [.addTool { name := "list_volumes", description := "" },
      .addAliases [("disks", "volumes"), ("volumes", "list_volumes")]]
    (r.find? "volumes").map (·.name) = some "list_volumes" ∧ (r.find? "disks").isNone := by
  decide

end Registry

end CloudGate
