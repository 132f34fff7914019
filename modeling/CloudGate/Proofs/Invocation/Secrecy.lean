import CloudGate.Proofs.Catalog.Secrecy

/-!
Calls that differ in texts of secrets only. If they are answered alike, nothing that is returned,
recorded, shown or logged tells them apart, but for the times that were measured.

* `screen_congr`, `preview_congr`, `resultOf_congr`: the stages of a call do not depend on secrets.
* `sent_sameButTime`: nor does what a call that was sent brings about.
* `invoke_keeps_secrets`: nor does the call as a whole.
-/

namespace CloudGate

/-- The same answer, measured as `ms` and as `ms'`. Both come in time, or none of them does. -/
structure Gateway.Reply.SameAnswer (limitMs : Option Nat) (ms ms' : Nat)
    (reply reply' : Gateway.Reply) : Prop where
  outcome : reply.outcome = reply'.outcome
  late : ∀ limit, limitMs = some limit → (limit < reply.afterMs ↔ limit < reply'.afterMs)
  log : reply.log = reply'.log
  measured : reply.measuredMs = ms
  measured' : reply'.measuredMs = ms'

/-- The same thing, or one that tells a time, which is `ms` and `ms'`. -/
inductive UpToTime {α : Type} (Tells : (Nat → α) → Prop) (ms ms' : Nat) : α → α → Prop
  | same (a : α) : UpToTime Tells ms ms' a a
  | timed {f : Nat → α} (h : Tells f) : UpToTime Tells ms ms' (f ms) (f ms')

theorem UpToTime.eq {α : Type} {Tells : (Nat → α) → Prop} {ms : Nat} {a b : α}
    (h : UpToTime Tells ms ms a b) : a = b := by
  cases h with
  | _ => rfl

/-- A result tells its duration. -/
def ToolResult.TellsTime (f : Nat → ToolResult) : Prop := ∃ r : ToolResult, f = r.withDuration

/-- An event tells a duration in a member of its payload. -/
def Audit.Event.TellsTime (f : Nat → Audit.Event) : Prop :=
  ∃ type before after,
    f = fun ms => ⟨type, .object (before ++ ("duration_ms", .nat ms) :: after)⟩

/-- The message about a failure tells how long it took. -/
def LogLine.TellsTime (f : Nat → LogLine) : Prop :=
  ∃ tool reason,
    f = fun ms => ⟨.warn, "Tool " ++ tool ++ " failed after " ++ toString ms ++ "ms: " ++ reason⟩

namespace Invocation

/-- Invocations that differ only in the requests that were sent and in measured times. -/
structure SameButTime (ms ms' : Nat) (i i' : Invocation) : Prop where
  result : UpToTime ToolResult.TellsTime ms ms' i.result i'.result
  operations : i.dispatched.map (·.1) = i'.dispatched.map (·.1)
  progress : i.progress = i'.progress
  audit : List.Forall₂ (UpToTime Audit.Event.TellsTime ms ms') i.audit i'.audit
  log : List.Forall₂ (UpToTime LogLine.TellsTime ms ms') i.log i'.log

theorem forall₂_same {α : Type} (Tells : (Nat → α) → Prop) (ms ms' : Nat) (items : List α) :
    List.Forall₂ (UpToTime Tells ms ms') items items :=
  List.forall₂_same.mpr fun a _ => .same a

theorem eq_of_forall₂ {α : Type} {Tells : (Nat → α) → Prop} {ms : Nat} {items items' : List α}
    (h : List.Forall₂ (UpToTime Tells ms ms) items items') : items = items' :=
  List.forall₂_eq_eq_eq ▸ h.imp fun _ _ => UpToTime.eq

theorem SameButTime.refl (ms ms' : Nat) (i : Invocation) : SameButTime ms ms' i i :=
  ⟨.same _, rfl, rfl, forall₂_same _ _ _ _, forall₂_same _ _ _ _⟩

/-- With the same times, invocations differ only in what was sent. -/
theorem SameButTime.eq {ms : Nat} {i i' : Invocation} (h : SameButTime ms ms i i') :
    { i with dispatched := [] } = { i' with dispatched := [] } := by
  rw [Invocation.mk.injEq]
  exact ⟨h.result.eq, rfl, h.progress, eq_of_forall₂ h.audit, eq_of_forall₂ h.log⟩

/-! ## The stages of a call -/

section

variable {call call' : ToolCall} (h : call.SameButSecrets call')
include h

/-- A text that is no secret is the first of its kind in both calls. -/
theorem findText_congr :
    (call.arguments.findSome? fun (n, v) => if Text.isSecretName n then none else v.str?) =
      call'.arguments.findSome? fun (n, v) => if Text.isSecretName n then none else v.str? := by
  have harguments := h.arguments
  generalize call.arguments = arguments, call'.arguments = arguments' at harguments
  induction harguments with
  | nil => rfl
  | @cons p q rest rest' hpair _ ih =>
    obtain ⟨n, v⟩ := p
    obtain ⟨n', w⟩ := q
    obtain ⟨rfl, halike⟩ := hpair
    simp only [List.findSome?_cons, ih]
    cases halike with
    | same => rfl
    | secret hname =>
      have hsecret := (Audit.isSecretName_iff n).mpr hname
      rw [if_pos hsecret, if_pos hsecret]

theorem preview_congr : preview call = preview call' := by
  have hlabel := h.string?_eq (show "label" ∉ Text.secretNames by decide)
  have hdomain := h.string?_eq (show "domain" ∉ Text.secretNames by decide)
  have hname := h.string?_eq (show "name" ∉ Text.secretNames by decide)
  simp only [preview, List.findSome?, hlabel, hdomain, hname, findText_congr h]

theorem aliasLog_congr (t : Tool) : aliasLog t call = aliasLog t call' := by
  unfold aliasLog
  rw [h.tool]

theorem subject_congr (t : Tool) : Audit.subject t call = Audit.subject t call' := by
  unfold Audit.subject
  rw [(Audit.redact_eq_iff call.arguments call'.arguments).mpr h.arguments]

theorem rejected_congr (t : Tool) (e : ToolError) : rejected t call e = rejected t call' e := by
  unfold rejected Audit.rejection
  rw [aliasLog_congr h, subject_congr h]

theorem isConfirmed_congr : call.isConfirmed = call'.isConfirmed := by
  unfold ToolCall.isConfirmed ToolCall.bool?
  rw [h.get?_eq (show Gate.confirmName ∉ Text.secretNames by decide)]

variable {t : Tool} (ht : t ∈ Catalog.registry.all)
include ht

theorem screen_congr : screen t call = screen t call' := by
  unfold screen
  rw [isConfirmed_congr h, h.checkShape_eq t, Catalog.checkRules_congr ht h]

theorem resultOf_congr (outcome : Except Gateway.Failure Json) :
    resultOf t call outcome = resultOf t call' outcome := by
  simp only [resultOf, filterList, Catalog.filtersFor_congr ht h]

/-- A failure is logged with the time that it took. -/
theorem resultLog_congr (ms ms' : Nat) (outcome : Except Gateway.Failure Json) :
    List.Forall₂ (UpToTime LogLine.TellsTime ms ms') (resultLog t call ms outcome)
      (resultLog t call' ms' outcome) := by
  cases outcome with
  | ok response =>
    simp only [resultLog, filterLog, Catalog.filtersFor_congr ht h]
    exact forall₂_same _ _ _ _
  | error f =>
    have htells : LogLine.TellsTime fun ms =>
        ⟨.warn, "Tool " ++ t.name ++ " failed after " ++ toString ms ++ "ms: " ++ f.message⟩ :=
      ⟨t.name, f.message, rfl⟩
    exact .cons (.timed htells) .nil

end

/-! ## Calls that were sent -/

section

variable {limitMs : Option Nat} {ms ms' : Nat} {reply reply' : Gateway.Reply}
  (hanswer : reply.SameAnswer limitMs ms ms' reply')
include hanswer

theorem isLate_congr : isLate limitMs reply = isLate limitMs reply' := by
  cases hlimit : limitMs with
  | none => rfl
  | some limit =>
    simp only [isLate, Option.any_some, hanswer.late limit hlimit]

theorem settle_congr : settle limitMs reply = settle limitMs reply' := by
  unfold settle
  rw [isLate_congr hanswer, hanswer.outcome]

end

/-- The event of a call that was sent tells the duration of its result. -/
theorem outcome_tellsTime (t : Tool) (call : ToolCall) (result : ToolResult) :
    Audit.Event.TellsTime fun ms => Audit.outcome t call (result.withDuration ms) := by
  cases herror : result.error with
  | _ => exact ⟨_, _, _, by simp only [Audit.outcome, ToolResult.withDuration, herror]; rfl⟩

theorem audit_congr {call call' : ToolCall} (h : call.SameButSecrets call') (t : Tool)
    (result : ToolResult) : Audit.outcome t call result = Audit.outcome t call' result := by
  unfold Audit.outcome
  rw [subject_congr h]

theorem sent_sameButTime {call call' : ToolCall} (h : call.SameButSecrets call') {t : Tool}
    (ht : t ∈ Catalog.registry.all) {limitMs : Option Nat} {ms ms' : Nat}
    {reply reply' : Gateway.Reply} (hanswer : reply.SameAnswer limitMs ms ms' reply') :
    SameButTime ms ms' (sent t call limitMs reply) (sent t call' limitMs reply') := by
  have hsettle := settle_congr hanswer
  have hlate := isLate_congr hanswer
  obtain ⟨-, -, hlog, rfl, rfl⟩ := hanswer
  have hresult := resultOf_congr h ht (settle limitMs reply)
  refine ⟨?_, rfl, ?_, ?_, ?_⟩
  · show UpToTime ToolResult.TellsTime _ _
      ((resultOf t call (settle limitMs reply)).withDuration reply.measuredMs)
      ((resultOf t call' (settle limitMs reply')).withDuration reply'.measuredMs)
    rw [← hsettle, ← hresult]
    exact .timed ⟨_, rfl⟩
  · simp only [sent, hsettle]
  · simp only [sent, ← hsettle, ← hresult, ← audit_congr h]
    split
    · exact .cons (.timed (outcome_tellsTime t call _)) .nil
    · exact .nil
  · simp only [sent, ← hsettle, ← hlate, ← hlog, ← aliasLog_congr h, ← preview_congr h]
    exact List.rel_append (forall₂_same _ _ _ _) (resultLog_congr h ht _ _ _)

end Invocation

namespace Catalog

/-- Of two calls that differ only in texts of secrets and are answered alike, nothing differs but
what is sent and the times that are measured. -/
theorem invoke_keeps_secrets {call call' : ToolCall} (h : call.SameButSecrets call')
    {limitMs : Option Nat} {gateway gateway' : Gateway} {ms ms' : Nat}
    (hanswer : ∀ p ∈ (registry.invoke limitMs gateway call).dispatched,
      ∀ p' ∈ (registry.invoke limitMs gateway' call').dispatched,
        (gateway p.1 p.2).SameAnswer limitMs ms ms' (gateway' p'.1 p'.2)) :
    let i := registry.invoke limitMs gateway call
    let i' := registry.invoke limitMs gateway' call'
    i.SameButTime ms ms' i' ∧
      (ms = ms' → { i with dispatched := [] } = { i' with dispatched := [] }) := by
  intro i i'
  have hsame : i.SameButTime ms ms' i' := by
    rcases registry.invoke_cases call with hnone | ⟨t, e, ht, he⟩ | ⟨t, ht, hok⟩
    · have hi : i = .unknown call := Registry.invoke_of_unknown hnone limitMs gateway
      have hi' : i' = .unknown call' :=
        Registry.invoke_of_unknown (h.tool ▸ hnone) limitMs gateway'
      have hunknown : Invocation.unknown call = .unknown call' := by
        unfold Invocation.unknown
        rw [h.tool]
      rw [hi, hi', hunknown]
      exact .refl ms ms' _
    · have hmem := Registry.mem_all_of_find? ht
      have hi : i = .rejected t call e := Registry.invoke_of_rejected ht he limitMs gateway
      have hi' : i' = .rejected t call' e :=
        Registry.invoke_of_rejected (h.tool ▸ ht) (Invocation.screen_congr h hmem ▸ he) limitMs
          gateway'
      rw [hi, hi', Invocation.rejected_congr h]
      exact .refl ms ms' _
    · have hmem := Registry.mem_all_of_find? ht
      have hi : i = .sent t call limitMs (gateway t.name (Invocation.request t call)) :=
        Registry.invoke_of_admitted ht hok limitMs gateway
      have hi' : i' = .sent t call' limitMs (gateway' t.name (Invocation.request t call')) :=
        Registry.invoke_of_admitted (h.tool ▸ ht) (Invocation.screen_congr h hmem ▸ hok) limitMs
          gateway'
      have hsent : (t.name, Invocation.request t call) ∈ i.dispatched := by
        rw [hi]
        exact List.mem_cons_self ..
      have hsent' : (t.name, Invocation.request t call') ∈ i'.dispatched := by
        rw [hi']
        exact List.mem_cons_self ..
      rw [hi, hi']
      exact Invocation.sent_sameButTime h hmem (hanswer _ hsent _ hsent')
  refine ⟨hsame, ?_⟩
  rintro rfl
  exact hsame.eq

/-- Two passwords for a new instance, whose creation fails after different times. -/
theorem invoke_keeps_secrets_instance :
    let call (password : String) : ToolCall :=
      { tool := "create_instance"
        arguments := [("confirm", .bool true), ("region", .str "us-east"),
          ("root_pass", .str password), ("type", .str "g6-nanode-1")] }
    let gateway (ms : Nat) : Gateway := fun _ _ =>
      { outcome := .error (.requestFailed 500 "no capacity"), measuredMs := ms }
    let i := registry.invoke none (gateway 12) (call "Sup3r$ecretPass")
    let i' := registry.invoke none (gateway 34) (call "An0therSecret!!")
    i.dispatched.map (·.1) = ["create_instance"] ∧ i.SameButTime 12 34 i' := by
  intro call gateway i i'
  have hsecrets : (call "Sup3r$ecretPass").SameButSecrets (call "An0therSecret!!") := by
    refine ⟨rfl, ?_, ?_⟩
    · exact .cons ⟨rfl, .same _⟩ (.cons ⟨rfl, .same _⟩ (.cons ⟨rfl, .secret (by decide) (by decide)
        (by decide)⟩ (.cons ⟨rfl, .same _⟩ .nil)))
    · intro s s' hs hs'
      obtain rfl : "Sup3r$ecretPass" = s := Json.str.inj (Option.some.inj hs)
      obtain rfl : "An0therSecret!!" = s' := Json.str.inj (Option.some.inj hs')
      exact ⟨by decide, by decide +kernel, by decide +kernel, by decide +kernel⟩
  refine ⟨by decide +kernel, ?_⟩
  exact (invoke_keeps_secrets hsecrets fun _ _ _ _ => ⟨rfl, fun _ _ => Iff.rfl, rfl, rfl, rfl⟩).1

end Catalog

end CloudGate
