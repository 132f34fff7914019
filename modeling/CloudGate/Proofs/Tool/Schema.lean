import CloudGate.Proofs.Fields.Rearrangement
import CloudGate.Proofs.Json.Basic
import CloudGate.Proofs.Text.ByteOrder
import CloudGate.Tool.Schema

/-!
What the schema of a tool tells about its arguments, and what the check of their shape asks for.

* `schema_advertises`: a schema requires the required parameters and has all parameters as its
  properties.
* `checkShape_cases`: the check passes just the calls that fit the parameters, and names the first
  fault of all others.
* `checkShape_advertised`: so who calls a tool by its schema is never stopped by the check.
-/

namespace CloudGate

/-! ## Schemas -/

/-- The schema requires the arguments with these names, and has these properties. -/
structure Json.Advertises (schema : Json) (required : List String) (properties : Fields Json) :
    Prop where
  required : ((schema.get? "input_schema").bind fun input => input.get? "required") =
    some (.strings required)
  properties : ((schema.get? "input_schema").bind fun input => input.get? "properties") =
    some (.obj properties)

namespace Tool

theorem schema_advertises (t : Tool) : t.schema.Advertises t.requiredNames t.properties where
  required := by simp [schema, Json.get?_object]
  properties := by simp [schema, Json.get?_object]

theorem mem_requiredNames {t : Tool} {name : String} :
    name ∈ t.requiredNames ↔ ∃ p ∈ t.parameters, p.required = true ∧ p.name = name := by
  simp only [requiredNames, List.mem_map, List.mem_filter, and_assoc]

theorem hasParameter_iff {t : Tool} {name : String} :
    t.hasParameter name = true ↔ ∃ p ∈ t.parameters, p.name = name := by
  simp only [hasParameter, List.any_eq_true, beq_iff_eq]

/-- Parameters of one name have one property. -/
theorem mem_properties {t : Tool} {name : String} :
    name ∈ t.properties.names ↔ ∃ p ∈ t.parameters, p.name = name := by
  rw [properties, Fields.mem_names_ofList, List.map_map, List.mem_map]
  rfl

/-! ## Shapes -/

/-- All that is required is given, and nothing is given that is no parameter, unless the tool lists
things. -/
structure Fits (t : Tool) (call : ToolCall) : Prop where
  given : ∀ p ∈ t.parameters, p.required = true → p.name ∈ call.arguments.names
  known : t.filters = [] → ∀ name ∈ call.arguments.names, ∃ p ∈ t.parameters, p.name = name

/-- The first fault of a call: the first required parameter that is missing, or else the argument
with the least name among those that are no parameters. -/
inductive Misfit (t : Tool) (call : ToolCall) : Violation → Prop
  | missing {before after : List Parameter} {p : Parameter}
    (declared : t.parameters = before ++ p :: after) (required : p.required = true)
    (absent : p.name ∉ call.arguments.names)
    (first : ∀ q ∈ before, q.required = true → q.name ∈ call.arguments.names) :
    Misfit t call ⟨.required, p.name ++ " is required"⟩
  | unknown {name : String}
    (given : ∀ p ∈ t.parameters, p.required = true → p.name ∈ call.arguments.names)
    (strict : t.filters = []) (present : name ∈ call.arguments.names)
    (undeclared : ∀ p ∈ t.parameters, p.name ≠ name)
    (least : ∀ other ∈ call.arguments.names, (∀ p ∈ t.parameters, p.name ≠ other) →
      other = name ∨ Text.bytes name < Text.bytes other) :
    Misfit t call
      ⟨.invalidFormat, "unknown parameter '" ++ name ++ "' for tool '" ++ t.name ++ "'"⟩

theorem Misfit.not_fits {t : Tool} {call : ToolCall} {v : Violation} (h : t.Misfit call v) :
    ¬ t.Fits call := by
  intro hfits
  cases h with
  | missing declared required absent first =>
    refine absurd (hfits.given _ ?_ required) absent
    rw [declared]
    exact List.mem_append_cons_self
  | unknown given strict present undeclared least =>
    obtain ⟨p, hp, hname⟩ := hfits.known strict _ present
    exact undeclared p hp hname

theorem isList_eq_false {t : Tool} : t.isList = false ↔ t.filters = [] := by
  simp [isList]

/-- In a sorted list what is found first is the least. -/
theorem least_of_find? {names : List String} (hsorted : names.Pairwise (· < ·))
    {p : String → Bool} {name : String} (h : names.find? p = some name) :
    ∀ other ∈ names, p other = true → other = name ∨ name < other := by
  obtain ⟨-, before, after, rfl, hbefore⟩ := List.find?_eq_some_iff_append.mp h
  intro other hother hp
  rcases List.mem_append.mp hother with hmem | hmem
  · have hnot := hbefore other hmem
    rw [hp] at hnot
    contradiction
  · rcases List.mem_cons.mp hmem with rfl | hmem
    · exact Or.inl rfl
    · have htail := (List.pairwise_append.mp hsorted).2.1
      exact Or.inr ((List.pairwise_cons.mp htail).1 other hmem)

theorem misfit_of_missing {t : Tool} {call : ToolCall} {p : Parameter}
    (h : t.parameters.find? (fun p => p.required && !call.arguments.contains p.name) = some p) :
    t.Misfit call (.required p.name) := by
  obtain ⟨hp, before, after, hdeclared, hbefore⟩ := List.find?_eq_some_iff_append.mp h
  rw [Bool.and_eq_true, Bool.not_eq_true', ← Bool.not_eq_true, Fields.contains_iff] at hp
  refine .missing hdeclared hp.1 hp.2 fun q hq hrequired => ?_
  have hgiven := hbefore q hq
  rw [hrequired, Bool.true_and, Bool.not_not, Fields.contains_iff] at hgiven
  exact hgiven

theorem given_of_find?_eq_none {t : Tool} {call : ToolCall}
    (h : t.parameters.find? (fun p => p.required && !call.arguments.contains p.name) = none) :
    ∀ p ∈ t.parameters, p.required = true → p.name ∈ call.arguments.names := by
  intro p hp hrequired
  have hgiven := List.find?_eq_none.mp h p hp
  rw [hrequired, Bool.true_and, Bool.not_eq_true', Bool.not_eq_false, Fields.contains_iff] at hgiven
  exact hgiven

theorem misfit_of_unknown {t : Tool} {call : ToolCall} (hsorted : call.arguments.Sorted)
    (hgiven : ∀ p ∈ t.parameters, p.required = true → p.name ∈ call.arguments.names)
    (hstrict : t.filters = []) {name : String}
    (h : call.arguments.names.find? (fun n => !t.hasParameter n) = some name) :
    t.Misfit call
      ⟨.invalidFormat, "unknown parameter '" ++ name ++ "' for tool '" ++ t.name ++ "'"⟩ := by
  have hundeclared : ∀ n, (!t.hasParameter n) = true ↔ ∀ p ∈ t.parameters, p.name ≠ n := by
    intro n
    rw [Bool.not_eq_true', ← Bool.not_eq_true, hasParameter_iff]
    simp only [not_exists, not_and, ne_eq]
  have hname := List.find?_some h
  have hnames : call.arguments.names.Pairwise (· < ·) := List.pairwise_map.mpr hsorted
  refine .unknown hgiven hstrict (List.mem_of_find?_eq_some h) ((hundeclared name).mp hname)
    fun other hother hnone => ?_
  have hleast := least_of_find? hnames h other hother ((hundeclared other).mpr hnone)
  exact hleast.imp_right Text.bytes_lt

/-- The check decides every call: it fits, or its first fault is told. -/
theorem checkShape_cases (t : Tool) {call : ToolCall} (hsorted : call.arguments.Sorted) :
    t.checkShape call = .ok () ∧ t.Fits call ∨
      ∃ v, t.checkShape call = .error v ∧ t.Misfit call v := by
  unfold checkShape
  cases hmissing : t.parameters.find? fun p => p.required && !call.arguments.contains p.name with
  | some p => exact Or.inr ⟨_, rfl, misfit_of_missing hmissing⟩
  | none =>
    have hgiven := given_of_find?_eq_none hmissing
    cases hlist : t.isList with
    | true =>
      refine Or.inl ⟨rfl, hgiven, fun hstrict => ?_⟩
      rw [isList_eq_false.mpr hstrict] at hlist
      contradiction
    | false =>
      simp only [Bool.false_eq_true, ↓reduceIte]
      cases hunknown : call.arguments.names.find? fun n => !t.hasParameter n with
      | some name =>
        have hstrict := isList_eq_false.mp hlist
        exact Or.inr ⟨_, rfl, misfit_of_unknown hsorted hgiven hstrict hunknown⟩
      | none =>
        refine Or.inl ⟨rfl, hgiven, fun _ name hname => ?_⟩
        have hknown := List.find?_eq_none.mp hunknown name hname
        rw [Bool.not_eq_true', Bool.not_eq_false] at hknown
        exact hasParameter_iff.mp hknown

/-- A call has the right shape exactly if it gives all arguments that the schema requires and,
unless the tool lists things, no argument that is not among the properties of the schema. Else the
first required parameter that is missing is told, and if there is none, the least unknown
argument. -/
theorem checkShape_advertised (t : Tool) {call : ToolCall} (hsorted : call.arguments.Sorted) :
    ∃ required properties, t.schema.Advertises required properties ∧
      (t.checkShape call = .ok () ↔
        (∀ name ∈ required, name ∈ call.arguments.names) ∧
          (t.filters = [] → ∀ name ∈ call.arguments.names, name ∈ properties.names)) ∧
      ∀ v, t.checkShape call = .error v → t.Misfit call v := by
  have hfits : t.Fits call ↔ (∀ name ∈ t.requiredNames, name ∈ call.arguments.names) ∧
      (t.filters = [] → ∀ name ∈ call.arguments.names, name ∈ t.properties.names) := by
    simp only [mem_requiredNames, mem_properties]
    constructor
    · rintro ⟨given, known⟩
      exact ⟨fun name ⟨p, hp, hrequired, hname⟩ => hname ▸ given p hp hrequired, known⟩
    · rintro ⟨given, known⟩
      exact ⟨fun p hp hrequired => given p.name ⟨p, hp, hrequired, rfl⟩, known⟩
  refine ⟨_, _, t.schema_advertises, ?_⟩
  rw [← hfits]
  rcases t.checkShape_cases hsorted with ⟨hok, hcall⟩ | ⟨v, herror, hmisfit⟩
  · rw [hok]
    exact ⟨iff_of_true rfl hcall, fun v h => nomatch h⟩
  · rw [herror]
    refine ⟨iff_of_false (fun h => nomatch h) hmisfit.not_fits, fun v' h => ?_⟩
    obtain rfl := Except.error.inj h
    exact hmisfit

/-- A parameter is declared twice, once as required. Without it a call is stopped, and with it only
by the arguments that are no parameters, of which the first one in byte order is told. -/
theorem checkShape_advertised_twice :
    let size : Parameter :=
      { name := "size", description := "", required := false, type := "integer" }
    let t : Tool := (({ name := "grow", description := "" } : Tool)
      |>.addParameter size
      |>.addClassification .billable
      |>.addParameter { size with required := true })
    let call : ToolCall := ⟨"grow", [("confirm", .bool true), ("size", .int 20)]⟩
    let call' : ToolCall := ⟨"grow", [("Zone", .null), ("size", .int 20), ("ém", .null)]⟩
    let v : Violation := ⟨.invalidFormat, "unknown parameter 'Zone' for tool 'grow'"⟩
    call.arguments.Sorted ∧ call'.arguments.Sorted ∧
      (∃ required properties, t.schema.Advertises required properties ∧
        (∀ name ∈ required, name ∈ ["confirm", "size"]) ∧
          ∀ name ∈ ["confirm", "size"], name ∈ properties.names) ∧
      t.checkShape ⟨"grow", []⟩ = .error ⟨.required, "size is required"⟩ ∧
      t.checkShape call' = .error v ∧ t.Misfit call' v := by
  intro size t call call' v
  have hsorted : call.arguments.Sorted ∧ call'.arguments.Sorted := by
    unfold Fields.Sorted
    decide +kernel
  obtain ⟨required, properties, hadvertises, hok, -⟩ := checkShape_advertised t hsorted.1
  obtain ⟨hrequired, hproperties⟩ := hok.mp rfl
  obtain ⟨-, -, -, -, hmisfit⟩ := checkShape_advertised t hsorted.2
  exact ⟨hsorted.1, hsorted.2, ⟨required, properties, hadvertises, hrequired, hproperties rfl⟩, rfl,
    rfl, hmisfit v rfl⟩

end Tool

end CloudGate
