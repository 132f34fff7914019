import CloudGate.Proofs.Audit.Event
import CloudGate.Proofs.Invocation.Check
import CloudGate.Proofs.Tool.Registration

/-!
The trail of a session holds one event for every call of a gated tool, in the order of the calls,
and each event tells what became of its call.

* `invoke_audit`: one call leaves the event that is due, or none.
* `session_trail`: so the events of a session are those that its calls are due.
* `session_audited`: besides, operations in the trail are as many as gated calls that were sent, and
  a check writes nothing.
-/

namespace CloudGate

namespace Invocation

/-! ## What a call that was sent comes to -/

/-- Why a call that was sent fails. -/
inductive Fails (t : Tool) (limitMs : Option Nat) (reply : Gateway.Reply) : Prop
  | late {limit : Nat} (hlimit : limitMs = some limit) (hlate : limit < reply.afterMs)
  | gateway {f : Gateway.Failure} (h : reply.outcome = .error f)
  | noList {response : Json} (h : reply.outcome = .ok response) (hlist : t.isList = true)
      (hitems : ∀ items, itemsOf response ≠ .ok items)

theorem isLate_iff (limitMs : Option Nat) (reply : Gateway.Reply) :
    isLate limitMs reply = true ↔ ∃ limit, limitMs = some limit ∧ limit < reply.afterMs := by
  unfold isLate
  cases limitMs with
  | none => simp
  | some limit => simp

/-- A list tool fails if there is no list to filter, and all other answers are successes. -/
theorem resultOf_success (t : Tool) (call : ToolCall) (outcome : Except Gateway.Failure Json) :
    (resultOf t call outcome).success = true ↔
      ∃ response, outcome = .ok response ∧
        (t.isList = true → ∃ items, itemsOf response = .ok items) := by
  cases outcome with
  | error f => simp [resultOf, ToolResult.failed]
  | ok response =>
    unfold resultOf filterList
    cases hlist : t.isList with
    | false => simp [ToolResult.succeeded]
    | true =>
      cases hitems : itemsOf response with
      | error e => simp [ToolResult.failed, hitems]
      | ok items => simp [ToolResult.succeeded, ToolResult.withCounts, hitems]

theorem resultOf_error (t : Tool) (call : ToolCall) (outcome : Except Gateway.Failure Json) :
    (resultOf t call outcome).error.isNone = (resultOf t call outcome).success := by
  cases outcome with
  | error f => rfl
  | ok response =>
    unfold resultOf filterList
    cases t.isList with
    | false => rfl
    | true =>
      cases hitems : itemsOf response with
      | error e => simp [ToolResult.failed, hitems]
      | ok items => simp [ToolResult.succeeded, ToolResult.withCounts, hitems]

theorem sent_fails_iff (t : Tool) (call : ToolCall) (limitMs : Option Nat)
    (reply : Gateway.Reply) :
    (sent t call limitMs reply).result.success = false ↔ Fails t limitMs reply := by
  have hresult : (sent t call limitMs reply).result.success =
      (resultOf t call (settle limitMs reply)).success := rfl
  rw [hresult, ← Bool.not_eq_true, resultOf_success]
  by_cases hlate : isLate limitMs reply = true
  · obtain ⟨limit, hlimit, hlt⟩ := (isLate_iff limitMs reply).mp hlate
    simp only [settle, hlate, ↓reduceIte, reduceCtorEq, false_and, exists_false, not_false_eq_true,
      true_iff]
    exact .late hlimit hlt
  · have hsettle : settle limitMs reply = reply.outcome := by simp [settle, hlate]
    rw [hsettle]
    constructor
    · intro hfails
      cases houtcome : reply.outcome with
      | error f => exact .gateway houtcome
      | ok response =>
        have hbad : ¬ (t.isList = true → ∃ items, itemsOf response = .ok items) :=
          fun hgood => hfails ⟨response, houtcome, hgood⟩
        obtain ⟨hlist, hnone⟩ := Classical.not_imp.mp hbad
        exact .noList houtcome hlist fun items hitems => hnone ⟨items, hitems⟩
    · rintro hfails ⟨response, hok, hgood⟩
      cases hfails with
      | late hlimit hlt => exact hlate ((isLate_iff limitMs reply).mpr ⟨_, hlimit, hlt⟩)
      | gateway herror =>
        rw [hok] at herror
        contradiction
      | noList hok' hlist hnone =>
        rw [hok, Except.ok.injEq] at hok'
        obtain ⟨items, hitems⟩ := hgood hlist
        exact hnone items (hok' ▸ hitems)

end Invocation

namespace Audit

/-! ## The event of a call -/

/-- The event tells what became of a call of a gated tool. -/
structure Recorded (t : Tool) (call : ToolCall) (limitMs : Option Nat) (gateway : Gateway)
    (i : Invocation) (e : Event) : Prop where
  refused : e.type = "gate_refused" ↔ ¬ call.Consents
  rejected : e.type = "validation_rejected" ↔
    call.Consents ∧ ¬ (t.checkShape call = .ok () ∧ t.checkRules call = .ok ())
  completed : e.type = "operation_completed" ↔ i.dispatched ≠ [] ∧ i.result.success = true
  failed : e.type = "operation_failed" ↔ i.dispatched ≠ [] ∧ i.result.success = false
  fails : i.dispatched ≠ [] → (i.result.success = false ↔
    Invocation.Fails t limitMs (gateway t.name (Invocation.request t call)))
  tool : e.payload.get? "tool" = some (.str t.name)
  arguments : e.payload.get? "arguments" = some (.obj (redact call.arguments))
  /-- Code and message are those of the result, and there are none for a success. -/
  code : e.told? "code" = i.result.error.map fun err => .str err.code
  message : e.told? "message" = i.result.error.map fun err => .str err.message

theorem recorded_rejection {t : Tool} {call : ToolCall} {e : ToolError}
    (hgated : t.classifications ≠ []) (he : Invocation.screen t call = .error e)
    (limitMs : Option Nat) (gateway : Gateway) :
    Recorded t call limitMs gateway (.rejected t call e) (rejection t call e) := by
  classical
  have hsent : (Invocation.rejected t call e).dispatched = [] := rfl
  have htold := rejection_told t call e
  have hfails : call.Consents → ¬ (t.checkShape call = .ok () ∧ t.checkRules call = .ok ()) :=
    fun hc => (Invocation.screen_of_consent hc he).2
  have htype : (rejection t call e).type =
      if call.Consents then "validation_rejected" else "gate_refused" := by
    by_cases hc : call.Consents
    · have hcode := (Invocation.screen_of_consent hc he).1
      rw [rejection_type, if_neg (by rw [hcode]; decide), if_pos hc]
    · rw [Invocation.screen_of_refused hgated hc] at he
      have hrefusal : Invocation.refusal t = e := Except.error.inj he
      rw [rejection_type, if_pos (by rw [← hrefusal]; rfl), if_neg hc]
  exact
    { refused := by by_cases hc : call.Consents <;> simp [htype, hc]
      rejected := by
        by_cases hc : call.Consents
        · simp only [htype, hc, ↓reduceIte, hfails hc, not_false_eq_true, and_self]
        · simp [htype, hc]
      completed := by by_cases hc : call.Consents <;> simp [htype, hc, hsent]
      failed := by by_cases hc : call.Consents <;> simp [htype, hc, hsent]
      fails := fun h => absurd hsent h
      tool := rejection_tool t call e
      arguments := rejection_arguments t call e
      code := htold.1
      message := htold.2 }

theorem recorded_outcome {t : Tool} {call : ToolCall} (hgated : t.classifications ≠ [])
    (hok : Invocation.screen t call = .ok ()) (limitMs : Option Nat) (gateway : Gateway) :
    let i := Invocation.sent t call limitMs (gateway t.name (Invocation.request t call))
    Recorded t call limitMs gateway i (outcome t call i.result) := by
  intro i
  obtain ⟨hgate, hchecks⟩ := (Invocation.screen_eq_ok t call).mp hok
  have hc : call.Consents := hgate.resolve_left hgated
  have hsent : i.dispatched ≠ [] := List.cons_ne_nil _ _
  have herror : i.result.error.isNone = i.result.success :=
    Invocation.resultOf_error t call _
  have htold := outcome_told t call i.result
  have htype : (outcome t call i.result).type =
      if i.result.success then "operation_completed" else "operation_failed" := by
    rw [outcome_type, herror]
  exact
    { refused := by cases hs : i.result.success <;> simp [htype, hs, hc]
      rejected := by cases hs : i.result.success <;> simp [htype, hs, hchecks]
      completed := by cases hs : i.result.success <;> simp [htype, hs, hsent]
      failed := by cases hs : i.result.success <;> simp [htype, hs, hsent]
      fails := fun _ => Invocation.sent_fails_iff t call limitMs _
      tool := outcome_tool t call i.result
      arguments := outcome_arguments t call i.result
      code := htold.1
      message := htold.2 }

end Audit

namespace Registry

/-- A call leaves one event if it names a gated tool, and else none. -/
theorem invoke_audit (r : Registry) (limitMs : Option Nat) (gateway : Gateway) (call : ToolCall) :
    (∃ t e, r.find? call.tool = some t ∧ t.isGated = true ∧
        (r.invoke limitMs gateway call).audit = [e] ∧
        Audit.Recorded t call limitMs gateway (r.invoke limitMs gateway call) e) ∨
      (∀ t, r.find? call.tool = some t → t.isGated = false) ∧
        (r.invoke limitMs gateway call).audit = [] := by
  rcases r.invoke_cases call with hnone | ⟨t, e, ht, he⟩ | ⟨t, ht, hok⟩
  · rw [invoke_of_unknown hnone]
    exact Or.inr ⟨fun t ht => by rw [hnone] at ht; contradiction, rfl⟩
  · rw [invoke_of_rejected ht he]
    cases hgated : t.isGated with
    | true =>
      have hrecorded := Audit.recorded_rejection (t.isGated_iff.mp hgated) he limitMs gateway
      exact Or.inl ⟨t, _, ht, hgated, by simp [Invocation.rejected, hgated], hrecorded⟩
    | false =>
      refine Or.inr ⟨fun t' ht' => ?_, by simp [Invocation.rejected, hgated]⟩
      rw [ht, Option.some.injEq] at ht'
      rw [← ht', hgated]
  · rw [invoke_of_admitted ht hok]
    cases hgated : t.isGated with
    | true =>
      have hrecorded := Audit.recorded_outcome (t.isGated_iff.mp hgated) hok limitMs gateway
      refine Or.inl ⟨t, _, ht, hgated, ?_, hrecorded⟩
      simp only [Invocation.sent, hgated, ↓reduceIte]
    | false =>
      refine Or.inr ⟨fun t' ht' => ?_, by simp [Invocation.sent, hgated]⟩
      rw [ht, Option.some.injEq] at ht'
      rw [← ht', hgated]

end Registry

/-! ## The events of a session -/

/-- The events that the calls of a session are due, given what was sent before it. -/
inductive Audit.Due (r : Registry) (limitMs : Option Nat) (behaviour : Gateway.Behaviour) :
    List (String × ToolCall) → List ToolCall → List Invocation → List Event → Prop
  | nil {past} : Due r limitMs behaviour past [] [] []
  | gated {past call t i e calls is es} (ht : r.find? call.tool = some t)
      (hgated : t.isGated = true) (he : Recorded t call limitMs (behaviour past) i e)
      (rest : Due r limitMs behaviour (past ++ i.dispatched) calls is es) :
      Due r limitMs behaviour past (call :: calls) (i :: is) (e :: es)
  | silent {past call i calls is es} (h : ∀ t, r.find? call.tool = some t → t.isGated = false)
      (rest : Due r limitMs behaviour (past ++ i.dispatched) calls is es) :
      Due r limitMs behaviour past (call :: calls) (i :: is) es

/-- The type of the event says that something was sent. -/
def Audit.Event.isOperation (e : Event) : Bool := "operation_".toList.isPrefixOf e.type.toList

/-- The name stands for a gated tool. -/
def Registry.gates (r : Registry) (name : String) : Bool := (r.find? name).any (·.isGated)

namespace Registry

theorem session_trail (r : Registry) (limitMs : Option Nat) (behaviour : Gateway.Behaviour)
    (past : List (String × ToolCall)) (calls : List ToolCall) :
    Audit.Due r limitMs behaviour past calls (r.session limitMs behaviour past calls)
      ((r.session limitMs behaviour past calls).flatMap (·.audit)) := by
  induction calls generalizing past with
  | nil => exact .nil
  | cons call rest ih =>
    rw [session, List.flatMap_cons]
    rcases r.invoke_audit limitMs (behaviour past) call with
      ⟨t, e, ht, hgated, haudit, hrecorded⟩ | ⟨hsilent, haudit⟩
    · rw [haudit]
      exact .gated ht hgated hrecorded (ih _)
    · rw [haudit]
      exact .silent hsilent (ih _)

/-- A call leaves an operation in the trail exactly if it is gated and was sent. -/
theorem invoke_operations {r : Registry} (hr : r.Keyed) (limitMs : Option Nat) (gateway : Gateway)
    (call : ToolCall) :
    (r.invoke limitMs gateway call).audit.countP (·.isOperation) =
      (r.invoke limitMs gateway call).dispatched.countP fun p => r.gates p.1 := by
  rcases r.invoke_cases call with hnone | ⟨t, e, ht, he⟩ | ⟨t, ht, hok⟩
  · rw [invoke_of_unknown hnone]
    rfl
  · rw [invoke_of_rejected ht he]
    have hrejection : (Audit.rejection t call e).isOperation = false := by
      unfold Audit.Event.isOperation
      rw [Audit.rejection_type]
      split
      · decide
      · decide
    cases hgated : t.isGated with
    | true => simp [Invocation.rejected, hgated, hrejection]
    | false => simp [Invocation.rejected, hgated]
  · rw [invoke_of_admitted ht hok]
    have houtcome : ∀ result, (Audit.outcome t call result).isOperation = true := by
      intro result
      unfold Audit.Event.isOperation
      rw [Audit.outcome_type]
      split
      · decide
      · decide
    have hgates : r.gates t.name = t.isGated := by simp [gates, hr.find?_name ht]
    cases hgated : t.isGated with
    | true => simp [Invocation.sent, hgated, hgates, houtcome]
    | false => simp [Invocation.sent, hgated, hgates]

theorem session_operations {r : Registry} (hr : r.Keyed) (limitMs : Option Nat)
    (behaviour : Gateway.Behaviour) (past : List (String × ToolCall)) (calls : List ToolCall) :
    ((r.session limitMs behaviour past calls).flatMap (·.audit)).countP (·.isOperation) =
      ((r.session limitMs behaviour past calls).flatMap (·.dispatched)).countP
        fun p => r.gates p.1 := by
  induction calls generalizing past with
  | nil => rfl
  | cons call rest ih =>
    simp only [session, List.flatMap_cons, List.countP_append, invoke_operations hr, ih]

/-- A command that only checks a call leaves every file as it is, and so every trail. -/
theorem check_disk (s : Program.Surroundings) (settings : Settings) (line : CommandLine)
    (request : CommandLine.CallRequest) (run : Program.Run) :
    (Program.command s settings { line with command := some (.check request) } run).disk =
      run.disk := by
  rcases check_traceless s settings line request run with ⟨fault, -, h⟩ | ⟨out, log, exitCode, h⟩
  · rw [h]
    rfl
  · rw [h]

/-- In every session on every registry the trail holds exactly the events that the calls of gated
tools are due, in the order of the calls. As many of them are operations as calls of gated tools
were sent. Checks leave no trail at all. -/
theorem session_audited (steps : List Registration) (limitMs : Option Nat)
    (behaviour : Gateway.Behaviour) (calls : List ToolCall) :
    let r := build steps
    let invocations := r.session limitMs behaviour [] calls
    Audit.Due r limitMs behaviour [] calls invocations (invocations.flatMap (·.audit)) ∧
      (invocations.flatMap (·.audit)).countP (·.isOperation) =
        (invocations.flatMap (·.dispatched)).countP (fun p => r.gates p.1) ∧
      ∀ s settings (line : CommandLine) request run,
        (Program.command s settings { line with command := some (.check request) } run).disk =
          run.disk :=
  ⟨session_trail _ limitMs behaviour [] calls,
    session_operations (keyed_build steps) limitMs behaviour [] calls, check_disk⟩

end Registry

end CloudGate
