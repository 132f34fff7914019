import CloudGate.Proofs.Settings.Merging
import CloudGate.Proofs.Toml.Ordered

/-!
What a single document and the variables of the environment set settings to.

* `suits_ofTomlMembers`, `setBy?_ofTomlMembers`: a document with settings of the right types is a
  layer.
* `Variable.at?_single`: a variable has its value in the place of its own setting.
* `Variable.at?_layer`: the variables together have there the value of the variable of each setting.
* `Variable.suits_layer`, `Variable.setBy?_layer`: if the values are of the right types, they are a
  layer that sets each setting to the value of its own variable.
-/

namespace CloudGate.Settings

/-! ## Documents -/

def tomlScalar? : Toml.Value → Option Scalar
  | .str s => some (.str s)
  | .int n => some (.int n true)
  | .real x => some (.real x)
  | .bool b => some (.bool b)
  | _ => none

namespace Setting

variable {α : Type}

/-- The value that a document has in the place of a setting. -/
def tomlAt? (s : Setting α) (members : Fields Toml.Value) : Option Toml.Value :=
  match members.get? s.sectionName with
  | some (.table inner) => Fields.get? inner s.key
  | _ => none

def ofToml? (s : Setting α) (v : Toml.Value) : Option α := (tomlScalar? v).bind s.ofScalar?

/-- What a document sets a setting to. -/
def ofText? (s : Setting α) (text : String) : Option α := do
  let members ← Toml.parse? text
  s.ofToml? (← s.tomlAt? members)

/-- The section of a setting is a table, if it is there, and the setting in it is of the right
type. -/
def fitsIn (s : Setting α) (members : Fields Toml.Value) : Bool :=
  match members.get? s.sectionName with
  | none => true
  | some (.table inner) => (Fields.get? inner s.key).all fun v => (s.ofToml? v).isSome
  | some _ => false

end Setting

/-- A document in which all settings are of the right types. -/
def FitsText (text : String) : Prop :=
  ∃ members, Toml.parse? text = some members ∧ ∀ {α : Type} (s : Setting α), s.fitsIn members = true

instance (text : String) : Decidable (FitsText text) :=
  decidable_of_iff
    ((Toml.parse? text).any fun members => Setting.all.all fun s => s.2.fitsIn members) <| by
    unfold FitsText
    cases Toml.parse? text with
    | none => simp
    | some members =>
      rw [Option.any_some, List.all_eq_true]
      constructor
      · exact fun h => ⟨members, rfl, fun s => h _ s.mem_all⟩
      · rintro ⟨members', heq, h⟩ s -
        obtain rfl := Option.some.inj heq
        exact h s.2

theorem Value.ofTomlMembers_eq_mapValues (source : Source) (members : Fields Toml.Value) :
    ofTomlMembers source members = members.mapValues fun _ v => ofToml source v := by
  induction members with
  | nil => rfl
  | cons m rest ih =>
    obtain ⟨name, v⟩ := m
    rw [ofTomlMembers, ih]
    rfl

theorem Value.scalar?_ofToml (source : Source) (v : Toml.Value) :
    (ofToml source v).scalar? = tomlScalar? v := by
  cases v <;> rw [ofToml] <;> rfl

theorem Value.get?_ofTomlMembers (source : Source) (members : Fields Toml.Value) (name : String) :
    Fields.get? (ofTomlMembers source members) name = (members.get? name).map (ofToml source) := by
  rw [ofTomlMembers_eq_mapValues, Fields.get?_mapValues]

theorem Value.sorted_ofTomlMembers {members : Fields Toml.Value} (h : Fields.Sorted members)
    (source : Source) : Fields.Sorted (ofTomlMembers source members) := by
  rw [ofTomlMembers_eq_mapValues]
  exact h.mapValues _

section Documents

variable {α : Type} {members : Fields Toml.Value}

theorem Setting.fitsIn_cases {s : Setting α} (h : s.fitsIn members = true) :
    members.get? s.sectionName = none ∨ ∃ inner, members.get? s.sectionName = some (.table inner) ∧
      ∀ v, Fields.get? inner s.key = some v → (s.ofToml? v).isSome := by
  unfold fitsIn at h
  split at h
  · rename_i hnone
    exact .inl hnone
  · rename_i inner hsome
    rw [Option.all_eq_true] at h
    exact .inr ⟨inner, hsome, h⟩
  · contradiction

/-- A value stands in the place of a setting in a layer as in the document of the layer. -/
theorem Setting.at?_ofTomlMembers {s : Setting α} (h : s.fitsIn members = true) (source : Source) :
    s.at? (Value.ofTomlMembers source members) = (s.tomlAt? members).map (Value.ofToml source) := by
  have hget := Value.get?_ofTomlMembers source members s.sectionName
  unfold at? tomlAt?
  rcases s.fitsIn_cases h with hnone | ⟨inner, hsome, -⟩
  · rw [hnone] at hget ⊢
    rw [sectionOf_of_none hget]
    rfl
  · rw [hsome, Option.map_some, Value.ofToml] at hget
    rw [hsome, sectionOf_of_get? hget, Value.get?_ofTomlMembers]

theorem Setting.ofValue?_ofToml (s : Setting α) (source : Source) (v : Toml.Value) :
    s.ofValue? (Value.ofToml source v) = s.ofToml? v := by
  unfold ofValue? ofToml?
  rw [Value.scalar?_ofToml]

theorem suits_ofTomlMembers (hordered : (Toml.Value.table members).Ordered)
    (hfits : ∀ {α : Type} (s : Setting α), s.fitsIn members = true) (source : Source) :
    Suits (Value.ofTomlMembers source members) where
  sorted := by
    cases hordered with
    | table hsorted hmembers => exact Value.sorted_ofTomlMembers hsorted source
  table s v h := by
    rw [Value.get?_ofTomlMembers] at h
    rcases s.fitsIn_cases (hfits s) with hnone | ⟨inner, hsome, -⟩
    · rw [hnone] at h
      contradiction
    · rw [hsome, Option.map_some, Value.ofToml, Option.some.injEq] at h
      cases hordered with
      | table hsorted hmembers =>
        cases hmembers _ (Fields.mem_of_get? hsome) with
        | table hinner _ => exact ⟨source, _, h.symm, Value.sorted_ofTomlMembers hinner source⟩
  typed s v h := by
    rw [Setting.at?_ofTomlMembers (hfits s)] at h
    obtain ⟨w, hw, rfl⟩ := Option.map_eq_some_iff.mp h
    rw [s.ofValue?_ofToml]
    unfold Setting.tomlAt? at hw
    rcases s.fitsIn_cases (hfits s) with hnone | ⟨inner, hsome, htyped⟩
    · rw [hnone] at hw
      contradiction
    · rw [hsome] at hw
      exact htyped w hw

theorem setBy?_ofTomlMembers {s : Setting α} (h : s.fitsIn members = true) (source : Source) :
    s.setBy? (Value.ofTomlMembers source members) = (s.tomlAt? members).bind s.ofToml? := by
  unfold Setting.setBy?
  rw [Setting.at?_ofTomlMembers h, Option.bind_map]
  congr 1
  funext v
  exact s.ofValue?_ofToml source v

end Documents

/-! ## Variables -/

namespace Setting

variable {α β : Type}

def place (s : Setting α) : List String := [s.sectionName, s.key]

/-- The name of the variable for a setting. -/
def variableName (s : Setting α) : String :=
  variablePrefix ++ s.sectionName.toUpper ++ "__" ++ s.key.toUpper

/-- What the environment sets a setting to. -/
def ofVariable? (s : Setting α) (env : Environment) : Option α :=
  (env.get? s.variableName).bind fun text => s.ofValue? (Variable.valueOf text)

end Setting

theorem Setting.find?_place {α : Type} (s : Setting α) :
    all.find? (fun t => t.2.place == s.place) = some ⟨α, s⟩ := by
  cases s <;> rfl

/-- Different settings have different places. -/
theorem Setting.place_inj {α β : Type} {s : Setting α} {t : Setting β} (h : s.place = t.place) :
    (⟨α, s⟩ : Sigma Setting) = ⟨β, t⟩ := by
  have hs := s.find?_place
  rw [h, t.find?_place] at hs
  exact (Option.some.inj hs).symm

/-- A place where no setting stands, also not in it or above it. -/
def Apart (path : List String) : Prop :=
  ∀ {α : Type} (s : Setting α), ¬ path <+: s.place ∧ ¬ s.place <+: path

namespace Variable

theorem pathOf?_variableName {α : Type} (s : Setting α) :
    pathOf? s.variableName = some s.place := by
  cases s <;> decide +kernel

theorem variableName_ne {α β : Type} {s : Setting α} {t : Setting β}
    (h : s.place ≠ t.place) : s.variableName ≠ t.variableName := by
  intro hname
  have hpath := pathOf?_variableName s
  rw [hname, pathOf?_variableName t] at hpath
  exact h (Option.some.inj hpath).symm

/-- A variable holds no setting, or it is the variable of a setting and of the right type. -/
def Fits (name text : String) : Prop :=
  ∀ path, pathOf? name = some path → Apart path ∨
    ∃ (α : Type) (s : Setting α), name = s.variableName ∧ (s.ofValue? (valueOf text)).isSome

/-- A variable holds no setting, or it is the variable of a setting. -/
def Named (name : String) : Prop :=
  ∀ path, pathOf? name = some path → Apart path ∨
    ∃ (α : Type) (s : Setting α), name = s.variableName

theorem Fits.named {name text : String} (h : Fits name text) : Named name := by
  intro path hpath
  rcases h path hpath with hapart | ⟨α, s, hname, -⟩
  · exact .inl hapart
  · exact .inr ⟨α, s, hname⟩

theorem named_variableName {α : Type} (s : Setting α) : Named s.variableName :=
  fun _ _ => .inr ⟨α, s, rfl⟩

/-- The layer of a single variable. -/
def single (name text : String) : Fields Value :=
  match pathOf? name with
  | none => []
  | some path =>
    match Value.nest .environment (valueOf text) path with
    | .table _ added => added
    | _ => []

theorem layer_eq_mergeLayers (env : Environment) :
    layer env = mergeLayers (env.map fun p => single p.1 p.2) := by
  unfold layer mergeLayers
  rw [List.foldl_map]
  congr 1
  funext members p
  obtain ⟨name, text⟩ := p
  cases hpath : pathOf? name with
  | none => simp only [single, hpath, Value.mergeMembers_nil]
  | some path =>
    cases hvalue : Value.nest .environment (valueOf text) path with
    | table source added => simp only [single, hpath, hvalue]
    | scalar source x => simp only [single, hpath, hvalue, Value.mergeMembers_nil]
    | list source items => simp only [single, hpath, hvalue, Value.mergeMembers_nil]

section Single

variable {α : Type} {name text : String}

theorem at?_of_ne {s : Setting α} {a : String} (h : a ≠ s.sectionName) (w : Value) :
    s.at? [(a, w)] = none := by
  simp [Setting.at?, sectionOf, Fields.get?, h]

theorem at?_of_section (s : Setting α) (source : Source) (b : String) (v : Value) :
    s.at? [(s.sectionName, .table source [(b, v)])] = if b = s.key then some v else none := by
  simp [Setting.at?, sectionOf, Fields.get?]

theorem single_variableName (t : Setting α) (text : String) :
    single t.variableName text =
      [(t.sectionName, .table .environment [(t.key, valueOf text)])] := by
  unfold single
  rw [pathOf?_variableName]
  rfl

/-- Elsewhere a variable adds a member that is in the place of no setting. -/
theorem single_of_apart {path : List String} (hpath : pathOf? name = some path)
    (hapart : Apart path) (text : String) :
    ∃ a w, single name text = [(a, w)] ∧ ∀ {α : Type} (s : Setting α), a = s.sectionName →
      ∃ source b v, w = .table source [(b, v)] ∧ b ≠ s.key := by
  unfold single
  rw [hpath]
  cases path with
  | nil => exact absurd List.nil_prefix (hapart .apiUrl).1
  | cons a path =>
    refine ⟨a, Value.nest .environment (valueOf text) path, rfl, fun s ha => ?_⟩
    subst ha
    cases path with
    | nil => exact absurd ((List.prefix_append [s.sectionName] [s.key])) (hapart s).1
    | cons b path =>
      refine ⟨.environment, b, _, rfl, fun hb => (hapart s).2 ?_⟩
      subst hb
      exact List.prefix_append [s.sectionName, s.key] path

theorem sectioned_nil : Sectioned [] := suits_nil.sectioned

/-- A layer with one member, which is a table with one member if it is a section. -/
theorem sectioned_of_member {a : String} {w : Value}
    (h : ∀ {α : Type} (s : Setting α), a = s.sectionName →
      ∃ source b v, w = .table source [(b, v)]) : Sectioned [(a, w)] where
  sorted := List.pairwise_singleton _ _
  table s v hv := by
    obtain ⟨ha, hw⟩ := Option.ite_none_right_eq_some.mp hv
    obtain ⟨source, b, u, rfl⟩ := h s ha
    exact ⟨source, _, (Option.some.inj hw).symm, List.pairwise_singleton _ _⟩

theorem sectioned_single (h : Named name) (text : String) : Sectioned (single name text) := by
  cases hpath : pathOf? name with
  | none =>
    simp only [single, hpath]
    exact sectioned_nil
  | some path =>
    rcases h path hpath with hapart | ⟨α, t, rfl⟩
    · obtain ⟨a, w, hsingle, hother⟩ := single_of_apart hpath hapart text
      rw [hsingle]
      refine sectioned_of_member fun s ha => ?_
      obtain ⟨source, b, v, hw, -⟩ := hother s ha
      exact ⟨source, b, v, hw⟩
    · rw [single_variableName]
      exact sectioned_of_member fun _ _ => ⟨_, _, _, rfl⟩

/-- A single variable has its value in the place of its own setting, and nothing elsewhere. -/
theorem at?_single (h : Named name) (text : String) (s : Setting α) :
    s.at? (single name text) = if name = s.variableName then some (valueOf text) else none := by
  by_cases hname : name = s.variableName
  · subst hname
    rw [if_pos rfl, single_variableName, at?_of_section, if_pos rfl]
  · rw [if_neg hname]
    cases hpath : pathOf? name with
    | none =>
      simp only [single, hpath]
      rfl
    | some path =>
      rcases h path hpath with hapart | ⟨β, t, rfl⟩
      · obtain ⟨a, w, hsingle, hother⟩ := single_of_apart hpath hapart text
        rw [hsingle]
        by_cases ha : a = s.sectionName
        · obtain ⟨source, b, v, rfl, hb⟩ := hother s ha
          rw [ha, at?_of_section, if_neg hb]
        · exact at?_of_ne ha w
      · rw [single_variableName]
        by_cases hsection : t.sectionName = s.sectionName
        · have hkey : t.key ≠ s.key := fun hkey => hname <| by
            unfold Setting.variableName
            rw [hsection, hkey]
          rw [hsection, at?_of_section, if_neg hkey]
        · exact at?_of_ne hsection _

theorem Fits.typed {s : Setting α} (h : Fits s.variableName text) :
    (s.ofValue? (valueOf text)).isSome := by
  rcases h s.place (pathOf?_variableName s) with hapart | ⟨β, t, hname, htyped⟩
  · exact absurd (List.prefix_refl s.place) (hapart s).1
  · have hplace := pathOf?_variableName t
    rw [← hname, pathOf?_variableName s] at hplace
    cases Setting.place_inj (Option.some.inj hplace)
    exact htyped

end Single

/-! ## All variables -/

section Layer

variable {α : Type} {env : Environment}

theorem sectioned_layer_from {m : Fields Value} (hm : Sectioned m) (hnamed : ∀ p ∈ env, Named p.1) :
    Sectioned ((env.map fun p => single p.1 p.2).foldl Value.mergeMembers m) := by
  induction env generalizing m with
  | nil => exact hm
  | cons p rest ih =>
    obtain ⟨hp, hrest⟩ := List.forall_mem_cons.mp hnamed
    exact ih (hm.merge (sectioned_single hp p.2)) hrest

/-- Variables of other names leave the place of a setting as it is. -/
theorem at?_layer_from {m : Fields Value} (hm : Sectioned m) (hsorted : Fields.Sorted env)
    (hnamed : ∀ p ∈ env, Named p.1) (s : Setting α) :
    s.at? ((env.map fun p => single p.1 p.2).foldl Value.mergeMembers m) =
      ((env.get? s.variableName).map fun text => Value.onto (s.at? m) (valueOf text)).or
        (s.at? m) := by
  induction env generalizing m with
  | nil => rfl
  | cons p rest ih =>
    obtain ⟨name, text⟩ := p
    obtain ⟨hp, hrest⟩ := List.forall_mem_cons.mp hnamed
    have hsingle := sectioned_single hp text
    rw [List.map_cons, List.foldl_cons, ih (hm.merge hsingle) hsorted.tail hrest,
      hm.at?_mergeMembers hsingle, at?_single hp]
    by_cases hname : name = s.variableName
    · -- no later variable has this name
      subst hname
      simp [hsorted.get?_tail, Fields.get?]
    · simp [hname, Fields.get?]

theorem sectioned_layer (hnamed : ∀ p ∈ env, Named p.1) : Sectioned (layer env) := by
  rw [layer_eq_mergeLayers]
  exact sectioned_layer_from sectioned_nil hnamed

/-- The variables together have in the place of each setting the value of its own variable. -/
theorem at?_layer (hsorted : Fields.Sorted env) (hnamed : ∀ p ∈ env, Named p.1) (s : Setting α) :
    s.at? (layer env) = (env.get? s.variableName).map valueOf := by
  have hfrom := at?_layer_from sectioned_nil hsorted hnamed s
  rw [layer_eq_mergeLayers]
  refine hfrom.trans ?_
  exact Option.or_none ..

theorem suits_layer (hsorted : Fields.Sorted env) (h : ∀ p ∈ env, Fits p.1 p.2) :
    Suits (layer env) where
  sorted := (sectioned_layer fun p hp => (h p hp).named).sorted
  table := (sectioned_layer fun p hp => (h p hp).named).table
  typed s v hv := by
    rw [at?_layer hsorted (fun p hp => (h p hp).named)] at hv
    obtain ⟨text, htext, rfl⟩ := Option.map_eq_some_iff.mp hv
    exact (h _ (Fields.mem_of_get? htext)).typed

/-- The variables together set each setting to the value of its own variable. -/
theorem setBy?_layer (hsorted : Fields.Sorted env) (h : ∀ p ∈ env, Fits p.1 p.2)
    (s : Setting α) : s.setBy? (layer env) = s.ofVariable? env := by
  unfold Setting.setBy? Setting.ofVariable?
  rw [at?_layer hsorted (fun p hp => (h p hp).named), Option.bind_map]
  rfl

end Layer

end Variable

end CloudGate.Settings
