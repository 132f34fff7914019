import CloudGate.Proofs.Invocation.Screen
import CloudGate.Proofs.Tool.Schema
import Mathlib.Data.List.Induction

/-!
What holds of a tool after any sequence of steps of its definition.

* `WellBuilt.extend`: what one more step keeps.
* `define_wellBuilt`: so it holds of every tool that is defined step by step.
* `checkShape_confirmed`: consent does not harm the shape of a call if it is declared.
* `define_confirmable`: so no tool behind the gate is out of reach.
-/

namespace CloudGate

/-- The call with the consent of the caller. -/
def ToolCall.confirmed (call : ToolCall) : ToolCall :=
  { call with arguments := call.arguments.insert Gate.confirmName (.bool true) }

theorem ToolCall.confirmed_consents (call : ToolCall) : call.confirmed.Consents :=
  (Fields.get?_insert call.arguments _ _ _).trans (if_pos rfl)

theorem ToolCall.mem_names_confirmed {call : ToolCall} {name : String} :
    name ∈ call.confirmed.arguments.names ↔
      name = Gate.confirmName ∨ name ∈ call.arguments.names := by
  rw [confirmed, Fields.mem_names_iff, Fields.get?_insert]
  by_cases hname : name = Gate.confirmName
  · simp [hname]
  · simp [hname, Fields.mem_names_iff]

namespace Tool

/-! ## Steps -/

/-- A step of the definition of a tool. -/
inductive Step
  | parameter (p : Parameter)
  | classification (c : Classification)
  | filter (param field : String) (mode : MatchMode)
  | rules (r : ArgumentRules)

namespace Step

def classification? : Step → Option Classification
  | .classification c => some c
  | .parameter _ | .filter _ _ _ | .rules _ => none

/-- The name of the parameter that a step declares. -/
def name? : Step → Option String
  | .parameter p => some p.name
  | .filter param _ _ => some param
  | .classification _ | .rules _ => none

end Step

def extend (t : Tool) : Step → Tool
  | .parameter p => t.addParameter p
  | .classification c => t.addClassification c
  | .filter param field mode => t.addFilter param field mode
  | .rules r => t.setRules r

/-- The tool that a sequence of steps leads to. -/
def define (name description : String) (steps : List Step) : Tool :=
  steps.foldl extend { name, description }

/-- The parameters that give consent. -/
def confirmParameters (t : Tool) : List Parameter :=
  t.parameters.filter fun p => p.name == Gate.confirmName

/-- What holds of a tool behind steps of its definition. -/
structure WellBuilt (t : Tool) (steps : List Step) : Prop where
  /-- Each classification stands where it was added first. -/
  classes : t.classifications = (steps.filterMap (·.classification?)).eraseDups
  confirm : t.classifications ≠ [] → ∃ p ∈ t.parameters, p.name = Gate.confirmName
  /-- Only the steps themselves can declare the consent twice. -/
  single : Gate.confirmName ∉ steps.filterMap (·.name?) →
    t.confirmParameters = if t.classifications = [] then [] else [confirmParameter]
  filtered : ∀ f ∈ t.filters, ∃ p ∈ t.parameters, p.name = f.param

/-! ## One step -/

/-- Classification and consent are added independently of each other, and neither twice. -/
theorem addClassification_eq (t : Tool) (c : Classification) :
    t.addClassification c =
      { t with
        classifications :=
          if c ∈ t.classifications then t.classifications else t.classifications ++ [c]
        parameters :=
          if t.hasParameter Gate.confirmName then t.parameters
          else t.parameters ++ [confirmParameter] } := by
  by_cases hclass : c ∈ t.classifications
  · by_cases hconfirm : t.hasParameter Gate.confirmName = true <;>
      simp [addClassification, hclass, hconfirm, addParameter]
  · have hsame (classes : List Classification) :
        hasParameter { t with classifications := classes } Gate.confirmName =
          t.hasParameter Gate.confirmName := rfl
    by_cases hconfirm : t.hasParameter Gate.confirmName = true <;>
      simp [addClassification, hclass, hsame, hconfirm, addParameter]

theorem eraseDups_concat {α : Type} [BEq α] [LawfulBEq α] [DecidableEq α] (items : List α) (a : α) :
    (items ++ [a]).eraseDups =
      if a ∈ items.eraseDups then items.eraseDups else items.eraseDups ++ [a] := by
  rw [List.eraseDups_append]
  by_cases ha : a ∈ items
  · simp [List.removeAll, ha]
  · simp [List.removeAll, ha, List.eraseDups_cons]

theorem nodup_eraseDups {α : Type} [BEq α] [LawfulBEq α] [DecidableEq α] (items : List α) :
    items.eraseDups.Nodup := by
  induction items using List.reverseRecOn with
  | nil => exact .nil
  | append_singleton items a ih =>
    rw [eraseDups_concat]
    split
    · exact ih
    · rename_i ha
      refine List.nodup_append.mpr ⟨ih, List.nodup_singleton a, fun b hb c hc => ?_⟩
      rw [List.mem_singleton.mp hc]
      exact fun heq => ha (heq ▸ hb)

/-- A step without a classification, with the parameters that it declares. -/
theorem WellBuilt.append {t : Tool} {steps : List Step} (h : t.WellBuilt steps) {step : Step}
    {t' : Tool} {declared : List Parameter} (hstep : step.classification? = none)
    (hclasses : t'.classifications = t.classifications)
    (hparameters : t'.parameters = t.parameters ++ declared)
    (hdeclared : ∀ p ∈ declared, step.name? = some p.name)
    (hfilters : ∀ f ∈ t'.filters, f ∈ t.filters ∨ ∃ p ∈ declared, p.name = f.param) :
    t'.WellBuilt (steps ++ [step]) where
  classes := by simp [hclasses, h.classes, hstep]
  confirm := by
    intro hgated
    obtain ⟨p, hp, hname⟩ := h.confirm (hclasses ▸ hgated)
    exact ⟨p, hparameters ▸ List.mem_append_left _ hp, hname⟩
  single := by
    intro hnamed
    rw [List.filterMap_append, List.mem_append, not_or] at hnamed
    have hother : declared.filter (fun p => p.name == Gate.confirmName) = [] := by
      refine List.filter_eq_nil_iff.mpr fun p hp hconfirm => hnamed.2 ?_
      simp [hdeclared p hp, beq_iff_eq.mp hconfirm]
    rw [confirmParameters, hparameters, List.filter_append, hother, List.append_nil, hclasses]
    exact h.single hnamed.1
  filtered := by
    intro f hf
    rw [hparameters]
    rcases hfilters f hf with hold | ⟨p, hp, hname⟩
    · obtain ⟨p, hp, hname⟩ := h.filtered f hold
      exact ⟨p, List.mem_append_left _ hp, hname⟩
    · exact ⟨p, List.mem_append_right _ hp, hname⟩

theorem WellBuilt.addClassification {t : Tool} {steps : List Step} (h : t.WellBuilt steps)
    (c : Classification) : (t.addClassification c).WellBuilt (steps ++ [.classification c]) where
  classes := by
    rw [addClassification_eq, List.filterMap_append]
    simp only [h.classes]
    exact (eraseDups_concat _ c).symm
  confirm := by
    intro _
    rw [addClassification_eq]
    simp only
    by_cases hconfirm : t.hasParameter Gate.confirmName = true
    · rw [if_pos hconfirm]
      exact hasParameter_iff.mp hconfirm
    · rw [if_neg hconfirm]
      exact ⟨confirmParameter, List.mem_append_right _ (List.mem_cons_self ..), rfl⟩
  single := by
    intro hnamed
    have hgated : (t.addClassification c).classifications ≠ [] := by
      rw [addClassification_eq]
      simp only
      split
      · rename_i hc
        exact List.ne_nil_of_mem hc
      · simp
    rw [List.filterMap_append, List.mem_append, not_or] at hnamed
    have hbefore := h.single hnamed.1
    rw [if_neg hgated, confirmParameters, addClassification_eq]
    simp only
    by_cases hconfirm : t.hasParameter Gate.confirmName = true
    · -- Nothing but an earlier classification can have declared the consent.
      obtain ⟨p, hp, hname⟩ := hasParameter_iff.mp hconfirm
      have hmem : p ∈ t.confirmParameters := List.mem_filter.mpr ⟨hp, beq_iff_eq.mpr hname⟩
      rw [if_pos hconfirm]
      split at hbefore
      · rw [hbefore] at hmem
        contradiction
      · exact hbefore
    · have hnone : t.confirmParameters = [] := by
        refine List.filter_eq_nil_iff.mpr fun p hp hname => hconfirm ?_
        exact hasParameter_iff.mpr ⟨p, hp, beq_iff_eq.mp hname⟩
      rw [if_neg hconfirm, List.filter_append, show t.parameters.filter _ = [] from hnone]
      rfl
  filtered := by
    intro f hf
    rw [addClassification_eq] at hf ⊢
    obtain ⟨p, hp, hname⟩ := h.filtered f hf
    refine ⟨p, ?_, hname⟩
    simp only
    split
    · exact hp
    · exact List.mem_append_left _ hp

theorem WellBuilt.extend {t : Tool} {steps : List Step} (h : t.WellBuilt steps) (step : Step) :
    (t.extend step).WellBuilt (steps ++ [step]) := by
  cases step with
  | parameter p => exact h.append rfl rfl rfl (by simp [Step.name?]) fun f hf => Or.inl hf
  | classification c => exact h.addClassification c
  | filter param field mode =>
    refine h.append rfl rfl rfl (by simp [Step.name?]) fun f hf => ?_
    rcases List.mem_append.mp hf with hold | hnew
    · exact Or.inl hold
    · obtain rfl := List.mem_singleton.mp hnew
      exact Or.inr ⟨_, List.mem_cons_self .., rfl⟩
  | rules r =>
    have hsame : (t.setRules r).parameters = t.parameters ++ [] := (List.append_nil _).symm
    exact h.append rfl rfl hsame (List.forall_mem_nil _) fun f hf => Or.inl hf

/-! ## All steps -/

theorem define_wellBuilt (name description : String) (steps : List Step) :
    (define name description steps).WellBuilt steps := by
  induction steps using List.reverseRecOn with
  | nil => exact ⟨rfl, fun h => absurd rfl h, fun _ => rfl, List.forall_mem_nil _⟩
  | append_singleton steps step ih =>
    rw [define, List.foldl_concat]
    exact ih.extend step

/-! ## Consent -/

theorem checkShape_of_fits {t : Tool} {call : ToolCall} (h : t.Fits call) :
    t.checkShape call = .ok () := by
  have hgiven : (t.parameters.find? fun p => p.required && !call.arguments.contains p.name) =
      none := by
    refine List.find?_eq_none.mpr fun p hp hmissing => ?_
    rw [Bool.and_eq_true, Bool.not_eq_true', ← Bool.not_eq_true, Fields.contains_iff] at hmissing
    exact hmissing.2 (h.given p hp hmissing.1)
  unfold checkShape
  rw [hgiven]
  by_cases hlist : t.isList = true
  · rw [if_pos hlist]
    rfl
  · have hstrict := isList_eq_false.mp (Bool.eq_false_iff.mpr hlist)
    have hknown : (call.arguments.names.find? fun n => !t.hasParameter n) = none := by
      refine List.find?_eq_none.mpr fun name hname hunknown => ?_
      rw [hasParameter_iff.mpr (h.known hstrict name hname)] at hunknown
      contradiction
    simp only [hlist, hknown]
    rfl

/-- A call that lacks nothing but the consent, and has nothing else that is no parameter. -/
theorem checkShape_confirmed {t : Tool} {call : ToolCall}
    (hconfirm : ∃ p ∈ t.parameters, p.name = Gate.confirmName)
    (hgiven : ∀ p ∈ t.parameters, p.required = true → p.name ≠ Gate.confirmName →
      p.name ∈ call.arguments.names)
    (hknown : ∀ name ∈ call.arguments.names, ∃ p ∈ t.parameters, p.name = name) :
    t.checkShape call.confirmed = .ok () := by
  refine checkShape_of_fits ⟨fun p hp hrequired => ?_, fun _ name hname => ?_⟩
  · refine ToolCall.mem_names_confirmed.mpr ?_
    by_cases hname : p.name = Gate.confirmName
    · exact Or.inl hname
    · exact Or.inr (hgiven p hp hrequired hname)
  · rcases ToolCall.mem_names_confirmed.mp hname with rfl | hname
    · exact hconfirm
    · exact hknown name hname

/-- Whatever the steps of its definition, a tool has its classifications in the order in which they
were added first, declares the argument of every filter, and if it is behind the gate declares the
consent, just once unless the steps name it themselves. So every call that fits apart from the
consent fits with the consent, too, and the gate lets it pass. -/
theorem define_confirmable (name description : String) (steps : List Step) :
    let t := define name description steps
    t.classifications = (steps.filterMap (·.classification?)).eraseDups ∧
      t.classifications.Nodup ∧
      (t.classifications ≠ [] → ∃ p ∈ t.parameters, p.name = Gate.confirmName) ∧
      (t.classifications ≠ [] → Gate.confirmName ∉ steps.filterMap (·.name?) →
        (t.parameters.filter fun p => p.name == Gate.confirmName) = [confirmParameter]) ∧
      (∀ f ∈ t.filters, ∃ p ∈ t.parameters, p.name = f.param) ∧
      ∀ call : ToolCall, t.classifications ≠ [] →
        (∀ p ∈ t.parameters, p.required = true → p.name ≠ Gate.confirmName →
          p.name ∈ call.arguments.names) →
        (∀ name ∈ call.arguments.names, ∃ p ∈ t.parameters, p.name = name) →
        t.checkShape call.confirmed = .ok () ∧
          Gate.pass call.confirmed.isConfirmed t.classifications = .ok () := by
  intro t
  have hbuilt : t.WellBuilt steps := define_wellBuilt name description steps
  refine ⟨hbuilt.classes, ?_, hbuilt.confirm, fun hgated hnamed => ?_, hbuilt.filtered,
    fun call hgated hgiven hknown => ⟨?_, ?_⟩⟩
  · rw [hbuilt.classes]
    exact nodup_eraseDups _
  · have hsingle := hbuilt.single hnamed
    rwa [if_neg hgated] at hsingle
  · exact checkShape_confirmed (hbuilt.confirm hgated) hgiven hknown
  · rw [Gate.pass_eq_ok, call.confirmed.isConfirmed_iff]
    exact Or.inr call.confirmed_consents

/-- A step that declares the consent behind a classification declares it again. -/
example :
    let consent : Parameter :=
      { name := "confirm", description := "", required := true, type := "string" }
    (define "grow" "" [.classification .billable, .parameter consent,
      .classification .irreversible, .classification .billable]).parameters =
        [confirmParameter, consent] := by decide

end Tool

end CloudGate
