import CloudGate.Proofs.Catalog.Texts

/-!
Types and targets of the records that are created and changed.

* `recordTarget_eq_ok`: a target is judged together with the type of its record.
* `changedTarget_eq_ok`: a change is judged so if it has a target, and else not at all.
* `record_judged`: so a new record has a type, and a target that is valid for it. A change has them
  too if it has a target; without one its type may be any value.
-/

namespace CloudGate

/-- The call gives a type of records, and a target that is valid for this type. -/
def ToolCall.NamesRecord (call : ToolCall) : Prop :=
  ∃ type, call.Gives "type" (RecordType.parse · = .ok type) ∧
    call.Gives "target" (Rule.recordTarget type · = .ok ())

theorem ToolCall.Gives.text {call : ToolCall} {key : String} {P : String → Prop}
    (h : call.Gives key P) : P (call.text key) := by
  obtain ⟨s, hs, hP⟩ := h
  have htext : call.text key = s := by simp [ToolCall.text, ToolCall.string?, hs, Json.str?]
  rw [htext]
  exact hP

namespace Operation

/-! ## Types and targets -/

theorem gives_type {call : ToolCall} {type : RecordType}
    (h : RecordType.parse (call.text "type") = .ok type) :
    call.Gives "type" (RecordType.parse · = .ok type) := by
  rcases call.text_cases "type" with ⟨s, hs, htext⟩ | htext
  · exact ⟨s, hs, htext ▸ h⟩
  · rw [htext] at h
    contradiction

theorem recordTarget_eq_ok (call : ToolCall) :
    recordTarget call = .ok () ↔ call.NamesRecord := by
  constructor
  · intro h
    unfold recordTarget at h
    split at h
    · contradiction
    · rename_i type htype
      have htarget : textual "target" (Rule.recordTarget type) call = .ok () := h
      exact ⟨type, gives_type htype, (textual_eq_ok (recordTarget_empty type) call).mp htarget⟩
  · rintro ⟨type, htype, htarget⟩
    have hparse : RecordType.parse (call.text "type") = .ok type := htype.text
    simp only [recordTarget, hparse]
    exact htarget.text

/-- A target of null counts as a target, which is valid for no type. -/
theorem changedTarget_eq_ok (call : ToolCall) :
    changedTarget call = .ok () ↔ call.get? "target" = none ∨ call.NamesRecord := by
  unfold changedTarget
  cases htarget : call.get? "target" with
  | none =>
    have hmissing : call.arguments.contains "target" = false := by
      rw [Fields.contains, show call.arguments.get? "target" = none from htarget]
      rfl
    simp [hmissing, Verdict.pass]
  | some v =>
    have hgiven : call.arguments.contains "target" = true := Option.isSome_of_eq_some htarget
    simp only [hgiven, ↓reduceIte, recordTarget_eq_ok, reduceCtorEq, false_or]

/-! ## Records -/

theorem namesRecord_of_create {call : ToolCall} (h : createDomainRecord.check call = .ok ()) :
    call.NamesRecord := by
  have hrule : recordTarget ∈ createDomainRecord.rules := by simp [createDomainRecord]
  exact (recordTarget_eq_ok call).mp ((createDomainRecord.check_eq_ok call).mp h _ hrule)

theorem namesRecord_of_update {call : ToolCall} (h : updateDomainRecord.check call = .ok ())
    (htarget : call.get? "target" ≠ none) : call.NamesRecord := by
  have hrule : changedTarget ∈ updateDomainRecord.rules := by simp [updateDomainRecord]
  have hchanged :=
    (changedTarget_eq_ok call).mp ((updateDomainRecord.check_eq_ok call).mp h _ hrule)
  exact hchanged.resolve_left htarget

/-- Without a target nothing looks at the type. -/
theorem update_eq_of_no_target {call call' : ToolCall} (htarget : call.get? "target" = none)
    (hothers : ∀ name, name ≠ "type" → call'.get? name = call.get? name) :
    updateDomainRecord.check call' = updateDomainRecord.check call := by
  have hchanged : changedTarget call = .ok () := (changedTarget_eq_ok call).mpr (Or.inl htarget)
  have htarget' : call'.get? "target" = none := by rw [hothers "target" (by decide), htarget]
  have hchanged' : changedTarget call' = .ok () := (changedTarget_eq_ok call').mpr (Or.inl htarget')
  -- The rule for the target passes both calls, and the other rules read other arguments.
  refine check_congr ?_
  simp only [updateDomainRecord, List.forall_mem_cons]
  exact ⟨integer_congr (hothers _ (by decide)) _, integer_congr (hothers _ (by decide)) _,
    optionalText_congr (hothers _ (by decide)) _, by rw [hchanged, hchanged'],
    optionalInteger_congr (hothers _ (by decide)) _, List.forall_mem_nil _⟩

/-- A call that creates a record and passes the rules gives a type and a target that is valid for
it. So does a call that changes the target of a record. Of a change without a target the type is not
looked at, whatever it is. -/
theorem record_judged (call : ToolCall) :
    (createDomainRecord.check call = .ok () → call.NamesRecord) ∧
      (updateDomainRecord.check call = .ok () → call.get? "target" ≠ none → call.NamesRecord) ∧
      (call.get? "target" = none → ∀ call' : ToolCall,
        (∀ name, name ≠ "type" → call'.get? name = call.get? name) →
          updateDomainRecord.check call' = updateDomainRecord.check call) :=
  ⟨namesRecord_of_create, namesRecord_of_update, fun htarget _ => update_eq_of_no_target htarget⟩

/-- A mail server is named in lowercase, and then only the lifetime of the record is changed. -/
theorem record_judged_mail :
    let moved : ToolCall :=
      ⟨"update_domain_record", [("domain_id", .int 1), ("record_id", .int 2),
        ("target", .str "mail.example.com"), ("type", .str "mx")]⟩
    let kept : ToolCall :=
      ⟨"update_domain_record",
        [("domain_id", .int 1), ("record_id", .int 2), ("ttl_sec", .int 300)]⟩
    moved.NamesRecord ∧ ∀ type, updateDomainRecord.check
      { kept with arguments := kept.arguments.insert "type" type } = .ok () := by
  intro moved kept
  have hmoved : updateDomainRecord.check moved = .ok () := eq_ok_of_toBool (by decide +kernel)
  have hkept : updateDomainRecord.check kept = .ok () := eq_ok_of_toBool (by decide +kernel)
  refine ⟨(record_judged moved).2.1 hmoved (by decide), fun type => ?_⟩
  rw [← hkept]
  refine (record_judged kept).2.2 rfl _ fun name hname => ?_
  exact (Fields.get?_insert kept.arguments "type" name type).trans (if_neg hname)

/-- Not all types are judged: a change may come with a type that does not exist. -/
theorem record_type_unjudged :
    ¬ ∀ r ∈ [createDomainRecord, updateDomainRecord], ∀ call : ToolCall, r.check call = .ok () →
      ∃ type, (call.Lacks "type" ∨ call.Gives "type" (RecordType.parse · = .ok type)) ∧
        (call.Lacks "target" ∨ call.Gives "target" (Rule.recordTarget type · = .ok ())) := by
  intro judged
  let call : ToolCall :=
    ⟨"update_domain_record", [("domain_id", .int 1), ("record_id", .int 2), ("type", .str "PTR")]⟩
  have hpass : updateDomainRecord.check call = .ok () := eq_ok_of_toBool (by decide +kernel)
  obtain ⟨type, htype, -⟩ := judged updateDomainRecord (by simp) call hpass
  rcases htype with hlacks | hgives
  · simp [call, ToolCall.Lacks, ToolCall.get?, Fields.get?] at hlacks
  · have hparse : RecordType.parse "PTR" = .ok type := hgives.text
    have hnone : (RecordType.parse "PTR").toBool = false := by decide +kernel
    rw [hparse] at hnone
    contradiction

end Operation

end CloudGate
