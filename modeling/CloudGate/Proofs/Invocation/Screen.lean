import CloudGate.Invocation
import CloudGate.Proofs.Fields
import CloudGate.Proofs.Verdict

/-!
What lets a call pass the checks, and what is sent of it then.

* `screen_eq_ok`: a call passes exactly if the gate lets it, its shape is right and the rules of the
  tool hold.
* `screen_of_refused`: without consent a gated tool gives one answer, the same for all arguments.
* `screen_cases`: the check that stops a call is the first one that it does not pass.
* `screen_of_consent`: with consent a call that is stopped breaks its shape or a rule.
-/

namespace CloudGate

/-! ## Consent -/

/-- The call carries the JSON value true under `confirm`. -/
def ToolCall.Consents (call : ToolCall) : Prop := call.get? Gate.confirmName = some (.bool true)

theorem ToolCall.isConfirmed_iff (call : ToolCall) : call.isConfirmed = true ↔ call.Consents := by
  unfold isConfirmed bool? Consents
  cases h : call.get? Gate.confirmName with
  | none => simp
  | some v => cases v <;> simp [Json.bool?]

theorem Gate.pass_eq_ok (confirmed : Bool) (classes : List Classification) :
    Gate.pass confirmed classes = .ok () ↔ classes = [] ∨ confirmed = true := by
  unfold Gate.pass
  cases confirmed <;> cases classes <;> simp

namespace Invocation

/-! ## The checks -/

theorem screen_eq_ok (t : Tool) (call : ToolCall) :
    screen t call = .ok () ↔
      (t.classifications = [] ∨ call.Consents) ∧ t.checkShape call = .ok () ∧
        t.checkRules call = .ok () := by
  unfold screen
  rw [unit_bind_eq_ok, unit_bind_eq_ok, mapError_eq_ok, mapError_eq_ok, mapError_eq_ok,
    Gate.pass_eq_ok, call.isConfirmed_iff]

/-- The answer of the gate to a call of the tool without consent. -/
def refusal (t : Tool) : ToolError :=
  ToolError.ofRefusal ⟨Classification.distinct t.classifications⟩

/-- Without consent nothing behind the gate is looked at. -/
theorem screen_of_refused {t : Tool} {call : ToolCall} (ht : t.classifications ≠ [])
    (hc : ¬ call.Consents) : screen t call = .error (refusal t) := by
  have hconfirmed : call.isConfirmed = false := by
    rw [← Bool.not_eq_true, call.isConfirmed_iff]
    exact hc
  have hclasses : t.classifications.isEmpty = false := by simpa using ht
  have hgate : Gate.pass call.isConfirmed t.classifications =
      .error ⟨Classification.distinct t.classifications⟩ := by
    simp [Gate.pass, hconfirmed, hclasses]
  unfold screen
  rw [hgate]
  rfl

/-- The check that stops a call is the first one that it does not pass. -/
theorem screen_cases {t : Tool} {call : ToolCall} {e : ToolError}
    (h : screen t call = .error e) :
    (t.classifications ≠ [] ∧ ¬ call.Consents ∧ e = refusal t) ∨
      (t.classifications = [] ∨ call.Consents) ∧ ∃ v, e = .ofViolation v ∧
        (t.checkShape call = .error v ∨
          t.checkShape call = .ok () ∧ t.checkRules call = .error v) := by
  by_cases hgate : t.classifications = [] ∨ call.Consents
  · refine Or.inr ⟨hgate, ?_⟩
    have hpass : Gate.pass call.isConfirmed t.classifications = .ok () := by
      rw [Gate.pass_eq_ok, call.isConfirmed_iff]
      exact hgate
    unfold screen at h
    rw [hpass] at h
    cases hshape : t.checkShape call with
    | error v =>
      rw [hshape] at h
      exact ⟨v, (Except.error.inj h).symm, Or.inl rfl⟩
    | ok u =>
      rw [hshape] at h
      cases hrules : t.checkRules call with
      | error v =>
        rw [hrules] at h
        exact ⟨v, (Except.error.inj h).symm, Or.inr ⟨rfl, rfl⟩⟩
      | ok u' =>
        rw [hrules] at h
        contradiction
  · obtain ⟨hclasses, hconsent⟩ := not_or.mp hgate
    rw [screen_of_refused hclasses hconsent] at h
    exact Or.inl ⟨hclasses, hconsent, (Except.error.inj h).symm⟩

/-- With consent only the shape or a rule can stop a call, and the answer says so. -/
theorem screen_of_consent {t : Tool} {call : ToolCall} (hc : call.Consents) {e : ToolError}
    (h : screen t call = .error e) :
    e.code = ToolError.invalidArgument ∧
      ¬ (t.checkShape call = .ok () ∧ t.checkRules call = .ok ()) := by
  rcases screen_cases h with ⟨-, hrefused, -⟩ | ⟨-, v, rfl, hfails⟩
  · exact absurd hc hrefused
  · refine ⟨rfl, ?_⟩
    rintro ⟨hshape, hrules⟩
    rcases hfails with hv | ⟨-, hv⟩
    · rw [hshape] at hv
      contradiction
    · rw [hrules] at hv
      contradiction

/-! ## The request -/

theorem request_get?_of_ne (t : Tool) (call : ToolCall) {key : String}
    (h : key ≠ Gate.confirmName) : (request t call).get? key = call.get? key :=
  Fields.get?_erase_of_ne call.arguments h

/-- All arguments but the consent are sent as they are. -/
theorem request_eq_filter (t : Tool) {call : ToolCall} (h : call.arguments.Sorted) :
    request t call =
      { tool := t.name, arguments := call.arguments.filter fun p => p.1 ≠ Gate.confirmName } := by
  unfold request
  rw [Fields.erase_eq_filter h]

end Invocation

end CloudGate
