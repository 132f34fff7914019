import CloudGate.Proofs.Catalog.Secrecy
import CloudGate.Proofs.Invocation.Session

/-!
A tool goes by its name and by aliases. Which of them a call uses shows in one message of the log,
and else at most in the answers of rules that read the name.

* `operationRules_judge`: the rules of all operations judge the arguments of a call, not its name.
* `screen_eq_iff`: the checks see the name only through the rules.
* `sameButLog_iff`: two spellings of a call come to the same exactly if the rules answer them alike.
* `spellings_alike`: so no session depends on the names in its calls, as long as no rule does.
* `spellings_told_apart`: a rule that reads the name tells an alias from the name of its tool.
-/

namespace CloudGate

/-! ## Rules and names -/

/-- The rule judges the arguments of a call, whatever name the call uses. -/
def Operation.JudgesArguments (rule : ArgumentRule) : Prop :=
  ∀ call call' : ToolCall, call.arguments = call'.arguments → rule call = rule call'

/-- All rules of the tool judge the arguments. -/
def Tool.JudgesArguments (t : Tool) : Prop :=
  ∀ r, t.rules = some r → ∀ rule ∈ r.rules, Operation.JudgesArguments rule

/-- The rules of the tool answer both calls alike, if they are asked at all: the gate and the shape
come first. -/
def Tool.AnswersAlike (t : Tool) (call call' : ToolCall) : Prop :=
  (t.classifications = [] ∨ call.Consents) → t.checkShape call = .ok () →
    t.checkRules call = t.checkRules call'

theorem Catalog.operationRules_judge :
    ∀ r ∈ operationRules, ∀ rule ∈ r.rules, Operation.JudgesArguments rule := by
  -- A rule is applied to a call with variables for the name and the arguments: the name drops out.
  have hdrops (name name' : String) :
      (operationRules.map fun r => r.rules.map fun rule arguments => rule ⟨name, arguments⟩) =
        operationRules.map fun r => r.rules.map fun rule arguments => rule ⟨name', arguments⟩ :=
    rfl
  intro r hr rule hrule call call' h
  obtain ⟨name, arguments⟩ := call
  obtain ⟨name', arguments'⟩ := call'
  obtain rfl : arguments = arguments' := h
  have hrules := List.map_inj_left.mp (hdrops name name') r hr
  exact congrFun (List.map_inj_left.mp hrules rule hrule) arguments

theorem Catalog.judgesArguments {t : Tool} (ht : t ∈ registry.all) : t.JudgesArguments := by
  intro r hr
  have hmem : r ∈ operationRules := by
    rw [← operationRules_eq_filterMap, List.mem_filterMap]
    exact ⟨t, (mem_registry_iff t).mp ht, hr⟩
  exact operationRules_judge r hmem

theorem Tool.JudgesArguments.answersAlike {t : Tool} (ht : t.JudgesArguments)
    {call call' : ToolCall} (h : call.arguments = call'.arguments) : t.AnswersAlike call call' := by
  intro _ _
  unfold Tool.checkRules
  cases hr : t.rules with
  | none => rfl
  | some r => exact Operation.check_congr fun rule hrule => ht r hr rule hrule _ _ h

/-! ## Stages and names -/

theorem Violation.Kind.mem_all (kind : Violation.Kind) : kind ∈ all := by
  cases kind <;> decide

theorem Violation.Kind.name_injective : Function.Injective name := by
  have hall : ∀ kind ∈ all, ∀ kind' ∈ all, kind.name = kind'.name → kind = kind' := by decide
  exact fun kind kind' h => hall kind (mem_all kind) kind' (mem_all kind') h

/-- What a caller is told of a violation tells everything about it. -/
theorem ToolError.ofViolation_injective : Function.Injective ToolError.ofViolation := by
  rintro ⟨kind, message⟩ ⟨kind', message'⟩ h
  obtain ⟨-, hmessage, hdetails⟩ := ToolError.mk.inj h
  obtain rfl : message = message' := hmessage
  obtain rfl : kind = kind' := Violation.Kind.name_injective (Option.some.inj hdetails)
  rfl

namespace Invocation

variable {t : Tool} {call call' : ToolCall}

/-- Gate and shape read arguments only, whatever the tool. -/
theorem screen_eq_iff (h : call.arguments = call'.arguments) :
    screen t call = screen t call' ↔ t.AnswersAlike call call' := by
  have hconsent : call'.isConfirmed = call.isConfirmed := by
    unfold ToolCall.isConfirmed ToolCall.bool? ToolCall.get?
    rw [h]
  have hshape : t.checkShape call' = t.checkShape call := by
    unfold Tool.checkShape
    rw [h]
  unfold screen Tool.AnswersAlike
  rw [hconsent, hshape, ← call.isConfirmed_iff, ← Gate.pass_eq_ok]
  cases Gate.pass call.isConfirmed t.classifications with
  | error e => simp [Except.mapError, bind, Except.bind]
  | ok u =>
    cases t.checkShape call with
    | error v => simp [Except.mapError, bind, Except.bind]
    | ok u' =>
      have hrules := mapError_inj (x := t.checkRules call) (y := t.checkRules call')
        ToolError.ofViolation_injective
      exact hrules.trans ⟨fun hrules _ _ => hrules, fun hrules => hrules rfl rfl⟩

end Invocation

/-! ## One call -/

/-- Invocations that differ in nothing but their messages. -/
structure Invocation.SameButLog (i i' : Invocation) : Prop where
  result : i.result = i'.result
  dispatched : i.dispatched = i'.dispatched
  progress : i.progress = i'.progress
  audit : i.audit = i'.audit

namespace Registry

/-- Two calls of a tool, by any two of its names, with the same arguments. -/
structure Spellings (r : Registry) (t : Tool) (call call' : ToolCall) : Prop where
  found : r.find? call.tool = some t
  found' : r.find? call'.tool = some t
  arguments : call.arguments = call'.arguments

/-- Behind the checks nothing looks at the name in a call. -/
theorem sameButLog_of_screen {r : Registry} {t : Tool} {call call' : ToolCall}
    (h : r.Spellings t call call') (hscreen : Invocation.screen t call = Invocation.screen t call')
    (limitMs : Option Nat) (gateway : Gateway) :
    Invocation.SameButLog (r.invoke limitMs gateway call) (r.invoke limitMs gateway call') := by
  obtain ⟨name, arguments⟩ := call
  obtain ⟨name', arguments'⟩ := call'
  obtain ⟨ht, ht', rfl⟩ := h
  cases he : Invocation.screen t ⟨name', arguments⟩ with
  | error e =>
    rw [invoke_of_rejected ht (hscreen.trans he), invoke_of_rejected ht' he]
    exact ⟨rfl, rfl, rfl, rfl⟩
  | ok u =>
    rw [invoke_of_admitted ht (hscreen.trans he), invoke_of_admitted ht' he]
    exact ⟨rfl, rfl, rfl, rfl⟩

/-- The answer of the checks can be read off an invocation. -/
theorem screen_of_sameButLog {r : Registry} {t : Tool} {call call' : ToolCall}
    (h : r.Spellings t call call') {limitMs : Option Nat} {gateway : Gateway}
    (hsame :
      Invocation.SameButLog (r.invoke limitMs gateway call) (r.invoke limitMs gateway call')) :
    Invocation.screen t call = Invocation.screen t call' := by
  cases he : Invocation.screen t call with
  | error e =>
    cases he' : Invocation.screen t call' with
    | error e' =>
      have hresult := hsame.result
      rw [invoke_of_rejected h.found he, invoke_of_rejected h.found' he'] at hresult
      obtain ⟨-, -, -, herror, -⟩ := ToolResult.mk.inj hresult
      rw [Option.some.inj herror]
    | ok u =>
      have hsent := hsame.dispatched
      rw [invoke_of_rejected h.found he, invoke_of_admitted h.found' he'] at hsent
      contradiction
  | ok u =>
    cases he' : Invocation.screen t call' with
    | error e' =>
      have hsent := hsame.dispatched
      rw [invoke_of_admitted h.found he, invoke_of_rejected h.found' he'] at hsent
      contradiction
    | ok u' => rfl

theorem sameButLog_iff {r : Registry} {t : Tool} {call call' : ToolCall}
    (h : r.Spellings t call call') (limitMs : Option Nat) (gateway : Gateway) :
    Invocation.SameButLog (r.invoke limitMs gateway call) (r.invoke limitMs gateway call') ↔
      t.AnswersAlike call call' :=
  ⟨fun hsame => (Invocation.screen_eq_iff h.arguments).mp (screen_of_sameButLog h hsame),
    fun halike =>
      sameButLog_of_screen h ((Invocation.screen_eq_iff h.arguments).mpr halike) limitMs gateway⟩

/-- What is sent goes by the name of the tool, and no name opens the gate. -/
theorem dispatched_spelled {r : Registry} {t : Tool} {call call' : ToolCall}
    (h : r.Spellings t call call') {limitMs : Option Nat} {gateway : Gateway}
    {p : String × ToolCall} (hp : p ∈ (r.invoke limitMs gateway call).dispatched) :
    (t.classifications = [] ∨ call.Consents ∧ call'.Consents) ∧
      p = (t.name, Invocation.request t call) := by
  cases hscreen : Invocation.screen t call with
  | error e =>
    rw [invoke_of_rejected h.found hscreen] at hp
    exact absurd hp List.not_mem_nil
  | ok u =>
    rw [invoke_of_admitted h.found hscreen] at hp
    have hgate := ((Invocation.screen_eq_ok t call).mp hscreen).1
    have hconsents : call.Consents → call'.Consents := by
      unfold ToolCall.Consents ToolCall.get?
      rw [h.arguments]
      exact id
    exact ⟨hgate.imp_right fun hc => ⟨hc, hconsents hc⟩, List.mem_singleton.mp hp⟩

/-! ## Sessions -/

/-- The calls before are sent alike, so the gateway has seen the same when the next call comes. -/
theorem session_spellings (r : Registry) (limitMs : Option Nat) (behaviour : Gateway.Behaviour)
    {calls calls' : List ToolCall}
    (h : List.Forall₂
      (fun call call' => ∃ t : Tool, t.AnswersAlike call call' ∧ r.Spellings t call call')
      calls calls')
    (past : List (String × ToolCall)) :
    List.Forall₂ Invocation.SameButLog (r.session limitMs behaviour past calls)
      (r.session limitMs behaviour past calls') := by
  induction h generalizing past with
  | nil => exact .nil
  | @cons call call' rest rest' hspellings _ ih =>
    obtain ⟨t, halike, hcalls⟩ := hspellings
    have hstep := (sameButLog_iff hcalls limitMs (behaviour past)).mpr halike
    rw [session, session, ← hstep.dispatched]
    exact .cons hstep (ih _)

/-- Whatever was registered, calls by any two names of a tool with the same arguments have the same
result and send, show and record the same, as long as the rules of the tool judge arguments, which
those of all operations do. In general this is so exactly if the rules answer the two calls alike,
and then no session depends on the names in its calls. In any case what is sent is the same request,
by the name of the tool, and no name opens the gate. -/
theorem spellings_alike (steps : List Registration) (limitMs : Option Nat) :
    (∀ r ∈ Catalog.operationRules, ∀ rule ∈ r.rules, Operation.JudgesArguments rule) ∧
      (∀ (gateway : Gateway) (t : Tool) (call call' : ToolCall),
        (build steps).Spellings t call call' →
        let i := (build steps).invoke limitMs gateway call
        let i' := (build steps).invoke limitMs gateway call'
        (t.JudgesArguments → Invocation.SameButLog i i') ∧
          (Invocation.SameButLog i i' ↔ t.AnswersAlike call call') ∧
          Invocation.request t call = Invocation.request t call' ∧
          ∀ p ∈ i.dispatched,
            (t.classifications = [] ∨ call.Consents ∧ call'.Consents) ∧
              p = (t.name, Invocation.request t call)) ∧
      ∀ (behaviour : Gateway.Behaviour) (calls calls' : List ToolCall),
        List.Forall₂
            (fun call call' => ∃ t : Tool, t.AnswersAlike call call' ∧
              (build steps).Spellings t call call') calls calls' →
          List.Forall₂ Invocation.SameButLog
            ((build steps).session limitMs behaviour [] calls)
            ((build steps).session limitMs behaviour [] calls') := by
  refine ⟨Catalog.operationRules_judge, fun gateway t call call' h => ?_,
    fun behaviour calls calls' h => session_spellings _ limitMs behaviour h []⟩
  have halike := sameButLog_iff h limitMs gateway
  refine ⟨fun hjudges => halike.mpr (hjudges.answersAlike h.arguments), halike, ?_,
    fun p hp => dispatched_spelled h hp⟩
  unfold Invocation.request
  rw [h.arguments]

/-- A balancer is deleted by the name of the provider's product and by that of the operation. -/
theorem spellings_alike_balancer :
    let steps : List Registration := [.addTools Catalog.tools, .addAliases Catalog.aliases]
    let gateway : Gateway := fun _ _ => { outcome := .ok .null, measuredMs := 7 }
    let arguments : Fields Json := [("confirm", .bool true), ("load_balancer_id", .int 5)]
    let call : ToolCall := ⟨"delete_nodebalancer", arguments⟩
    let call' : ToolCall := ⟨"delete_load_balancer", arguments⟩
    let i := (build steps).invoke none gateway call
    let i' := (build steps).invoke none gateway call'
    Invocation.SameButLog i i' ∧ i.dispatched.map (·.1) = ["delete_load_balancer"] ∧
      i.log ≠ i'.log ∧
      List.Forall₂ Invocation.SameButLog
        ((build steps).session none (fun _ => gateway) [] [call, call'])
        ((build steps).session none (fun _ => gateway) [] [call', call]) := by
  intro steps gateway arguments call call' i i'
  obtain ⟨t, ht⟩ : ∃ t, (build steps).find? call.tool = some t :=
    Option.isSome_iff_exists.mp (by decide +kernel)
  have ht' : (build steps).find? call'.tool = some t := by
    rw [← ht]
    rfl
  have hjudges : t.JudgesArguments := Catalog.judgesArguments (mem_all_of_find? ht)
  have hone : (build steps).Spellings t call call' := ⟨ht, ht', rfl⟩
  have hother : (build steps).Spellings t call' call := ⟨ht', ht, rfl⟩
  obtain ⟨-, hcalls, hsessions⟩ := spellings_alike steps none
  have hsame := (hcalls gateway t _ _ hone).1 hjudges
  exact ⟨hsame, by decide +kernel, by decide +kernel,
    hsessions _ _ _ (.cons ⟨t, hjudges.answersAlike rfl, hone⟩
      (.cons ⟨t, hjudges.answersAlike rfl, hother⟩ .nil))⟩

/-- The rule of this tool passes calls by the name of the tool only. So a call that consents is sent
by that name, and refused by the alias. -/
theorem spellings_told_apart :
    let byName : Operation.ArgumentRule := fun call =>
      if call.tool = "purge" then .pass else .fail .invalidFormat ("got '" ++ call.tool ++ "'")
    let plain : Tool := { name := "purge", description := "Empty the trash" }
    let t := (plain.addClassification .irreversible).setRules ⟨"purge", [byName]⟩
    let r := build [.addTool t, .addAlias "wipe" "purge"]
    let gateway : Gateway := fun _ _ => { outcome := .ok .null }
    let call : ToolCall := ⟨"purge", [("confirm", .bool true)]⟩
    let call' : ToolCall := ⟨"wipe", [("confirm", .bool true)]⟩
    let i := r.invoke none gateway call
    let i' := r.invoke none gateway call'
    r.Spellings t call call' ∧ i.dispatched = [("purge", ⟨"purge", []⟩)] ∧ i'.dispatched = [] ∧
      i.audit.map (·.type) = ["operation_completed"] ∧
      i'.audit.map (·.type) = ["validation_rejected"] ∧ ¬ Invocation.SameButLog i i' := by
  intro byName plain t r gateway call call' i i'
  have hsent : i.dispatched = [("purge", ⟨"purge", []⟩)] := rfl
  have hunsent : i'.dispatched = [] := rfl
  refine ⟨⟨rfl, rfl, rfl⟩, hsent, hunsent, by decide +kernel, by decide +kernel, fun hsame => ?_⟩
  rw [hsame.dispatched, hunsent] at hsent
  contradiction

end Registry

end CloudGate
