import CloudGate.Proofs.Audit.Completeness

/-!
What a call comes to. The stages of a call have a fixed order, the first one that fails decides the
call, and whatever decides it, the result and the progress are complete.

* `sent_decision`: what decides a call that was sent.
* `invoke_decided`: every call is decided by one stage, and told in full.
-/

namespace CloudGate

/-- The error that a failure of the gateway is told as. -/
structure Gateway.Failure.ToldAs (f : Gateway.Failure) (e : ToolError) : Prop where
  code : e.code = match f with
    | .notFound _ => "NOT_FOUND"
    | .timeout => "TIMEOUT"
    | _ => "EXECUTION_FAILED"
  message : e.message = if f = .timeout then "Operation timed out: provider request" else f.message
  details : e.details = match f with
    | .requestFailed status _ => some (toString status)
    | _ => none

theorem Gateway.Failure.toldAs (f : Gateway.Failure) : f.ToldAs f.toToolError := by
  cases f with
  | _ => exact ⟨rfl, rfl, rfl⟩

/-- The result is an output or an error, with no trace of the other. -/
inductive ToolResult.Gives (result : ToolResult) : Except ToolError Json → Prop
  | ok {v : Json} (output : result.output = some v) (error : result.error = none)
      (success : result.success = true) : Gives result (.ok v)
  | error {e : ToolError} (output : result.output = none) (error : result.error = some e)
      (success : result.success = false) : Gives result (.error e)

namespace ToolResult

/-- The measures are no part of the answer. -/
theorem Gives.withDuration {result : ToolResult} {answer : Except ToolError Json}
    (h : result.Gives answer) (ms : Nat) : (result.withDuration ms).Gives answer := by
  cases h with
  | ok output error success => exact .ok output error success
  | error output error success => exact .error output error success

theorem Gives.single {result : ToolResult} {answer : Except ToolError Json}
    (h : result.Gives answer) : result.output.isSome = !result.error.isSome := by
  cases h with
  | _ output error => rw [output, error]; rfl

theorem Gives.success_eq {result : ToolResult} {answer : Except ToolError Json}
    (h : result.Gives answer) : result.success = result.error.isNone := by
  cases h with
  | _ output error success => rw [error, success]; rfl

end ToolResult

namespace Invocation

/-! ## The stages -/

/-- The call passes gate, shape and rules. -/
structure Admitted (t : Tool) (call : ToolCall) : Prop where
  gate : t.classifications = [] ∨ call.Consents
  shape : t.checkShape call = .ok ()
  rules : t.checkRules call = .ok ()

/-- The answer comes before the limit is over. -/
def InTime (limitMs : Option Nat) (reply : Gateway.Reply) : Prop :=
  ∀ limit, limitMs = some limit → reply.afterMs ≤ limit

/-- The items that an answer lists. -/
inductive Lists : Json → List Json → Prop
  | bare (items : List Json) : Lists (.arr items) items
  | envelope {members : Fields Json} {items : List Json}
      (h : members.get? "data" = some (.arr items)) : Lists (.obj members) items

/-- The stage that decides a call, the tool in whose name it does, and what it decides. Each stage
is reached only by calls that pass all stages before it. -/
inductive Decision (r : Registry) (limitMs : Option Nat) (gateway : Gateway) (call : ToolCall) :
    String → Except ToolError Json → Prop
  | unknown (h : r.find? call.tool = none) :
    Decision r limitMs gateway call call.tool
      (.error ⟨"NOT_FOUND", "Unknown tool: " ++ call.tool, none⟩)
  | refused {t : Tool} {e : ToolError} (ht : r.find? call.tool = some t)
      (hclasses : t.classifications ≠ []) (hconsent : ¬ call.Consents)
      (he : e.code = "CONFIRMATION_REQUIRED") : Decision r limitMs gateway call t.name (.error e)
  | misshapen {t : Tool} {v : Violation} (ht : r.find? call.tool = some t)
      (hgate : t.classifications = [] ∨ call.Consents) (hshape : t.checkShape call = .error v) :
    Decision r limitMs gateway call t.name
      (.error ⟨"INVALID_ARGUMENT", v.message, some v.kind.name⟩)
  | unruly {t : Tool} {v : Violation} (ht : r.find? call.tool = some t)
      (hgate : t.classifications = [] ∨ call.Consents) (hshape : t.checkShape call = .ok ())
      (hrules : t.checkRules call = .error v) :
    Decision r limitMs gateway call t.name
      (.error ⟨"INVALID_ARGUMENT", v.message, some v.kind.name⟩)
  | late {t : Tool} (ht : r.find? call.tool = some t) (hadmitted : Admitted t call)
      (hlate : ¬ InTime limitMs (gateway t.name (request t call))) :
    Decision r limitMs gateway call t.name
      (.error ⟨"TIMEOUT", "Operation timed out: provider request", none⟩)
  | failed {t : Tool} {f : Gateway.Failure} {e : ToolError} (ht : r.find? call.tool = some t)
      (hadmitted : Admitted t call) (htime : InTime limitMs (gateway t.name (request t call)))
      (hreply : (gateway t.name (request t call)).outcome = .error f) (he : f.ToldAs e) :
    Decision r limitMs gateway call t.name (.error e)
  | unlisted {t : Tool} {response : Json} {e : ToolError} (ht : r.find? call.tool = some t)
      (hadmitted : Admitted t call) (htime : InTime limitMs (gateway t.name (request t call)))
      (hreply : (gateway t.name (request t call)).outcome = .ok response)
      (hfilters : t.filters ≠ [])
      (hitems : ∀ items, ¬ Lists response items) (he : e.code = "EXECUTION_FAILED") :
    Decision r limitMs gateway call t.name (.error e)
  | listed {t : Tool} {response : Json} {items kept : List Json} (ht : r.find? call.tool = some t)
      (hadmitted : Admitted t call) (htime : InTime limitMs (gateway t.name (request t call)))
      (hreply : (gateway t.name (request t call)).outcome = .ok response)
      (hfilters : t.filters ≠ [])
      (hitems : Lists response items) (hkept : kept.Sublist items) :
    Decision r limitMs gateway call t.name (.ok (.arr kept))
  | answered {t : Tool} {response : Json} (ht : r.find? call.tool = some t)
      (hadmitted : Admitted t call) (htime : InTime limitMs (gateway t.name (request t call)))
      (hreply : (gateway t.name (request t call)).outcome = .ok response)
      (hfilters : t.filters = []) :
    Decision r limitMs gateway call t.name (.ok response)

/-- What an invocation tells, whatever decided it. -/
structure Complete (r : Registry) (limitMs : Option Nat) (gateway : Gateway) (call : ToolCall)
    (i : Invocation) : Prop where
  single : i.result.output.isSome = !i.result.error.isSome
  success : i.result.success = i.result.error.isNone
  duration : i.result.measures.durationMs.isSome = true ↔ i.dispatched ≠ []
  total : i.result.measures.totalItems.isSome = true ↔
    i.result.success = true ∧ ∃ t, r.find? call.tool = some t ∧ t.filters ≠ []
  returned : i.result.measures.returnedItems.isSome = i.result.measures.totalItems.isSome
  fewer : ∀ total ∈ i.result.measures.totalItems, ∀ returned ∈ i.result.measures.returnedItems,
    returned ≤ total
  unsent : i.dispatched = [] → i.progress = []
  /-- The completion tells whether an answer came in time. -/
  sent : ∀ p ∈ i.dispatched, i.dispatched = [p] ∧
    ∃ ok, i.progress = [.dispatched p.1, .completed p.1 ok] ∧
      (ok = true ↔ InTime limitMs (gateway p.1 p.2) ∧ ∃ v, (gateway p.1 p.2).outcome = .ok v)

/-! ## The checks -/

theorem admitted_iff (t : Tool) (call : ToolCall) : screen t call = .ok () ↔ Admitted t call := by
  rw [screen_eq_ok]
  exact ⟨fun ⟨hgate, hshape, hrules⟩ => ⟨hgate, hshape, hrules⟩,
    fun h => ⟨h.gate, h.shape, h.rules⟩⟩

/-! ## The answer -/

theorem isLate_eq_false (limitMs : Option Nat) (reply : Gateway.Reply) :
    isLate limitMs reply = false ↔ InTime limitMs reply := by
  rw [← Bool.not_eq_true, isLate_iff]
  unfold InTime
  constructor
  · intro h limit hlimit
    exact Nat.not_lt.mp fun hlt => h ⟨limit, hlimit, hlt⟩
  · rintro h ⟨limit, hlimit, hlt⟩
    exact absurd (h limit hlimit) (Nat.not_le.mpr hlt)

theorem itemsOf_eq_ok (response : Json) (items : List Json) :
    itemsOf response = .ok items ↔ Lists response items := by
  constructor
  · intro h
    unfold itemsOf at h
    split at h
    · obtain rfl := Except.ok.inj h
      exact .bare _
    · split at h
      · rename_i hdata
        obtain rfl := Except.ok.inj h
        exact .envelope hdata
      · contradiction
    · contradiction
  · intro h
    cases h with
    | bare => rfl
    | envelope hdata => simp only [itemsOf, hdata]

theorem itemsOf_error {response : Json} {e : ToolError} (h : itemsOf response = .error e) :
    e.code = "EXECUTION_FAILED" ∧ ∀ items, ¬ Lists response items := by
  constructor
  · unfold itemsOf at h
    split at h
    · contradiction
    · split at h
      · contradiction
      · obtain rfl := Except.error.inj h
        rfl
    · obtain rfl := Except.error.inj h
      rfl
  · intro items hitems
    rw [(itemsOf_eq_ok response items).mpr hitems] at h
    contradiction

theorem isList_iff (t : Tool) : t.isList = true ↔ t.filters ≠ [] := by
  simp [Tool.isList]

/-- A list tool fails, or tells how many of the items it keeps. -/
theorem filterList_cases (t : Tool) (call : ToolCall) (response : Json) :
    (∃ e, itemsOf response = .error e ∧ filterList t call response = .failed t.name e) ∨
      ∃ items kept, itemsOf response = .ok items ∧ kept.Sublist items ∧
        filterList t call response =
          (ToolResult.succeeded t.name (.arr kept)).withCounts items.length kept.length := by
  unfold filterList
  cases h : itemsOf response with
  | error e => exact Or.inl ⟨e, rfl, rfl⟩
  | ok items =>
    exact Or.inr ⟨items, _, rfl, List.filter_sublist, rfl⟩

theorem resultOf_list {t : Tool} (h : t.isList = true) (call : ToolCall) (response : Json) :
    resultOf t call (.ok response) = filterList t call response := if_pos h

theorem resultOf_other {t : Tool} (h : ¬ t.isList = true) (call : ToolCall) (response : Json) :
    resultOf t call (.ok response) = .succeeded t.name response := if_neg h

/-- The counts that the measures have. -/
structure Counted (result : ToolResult) (list : Prop) : Prop where
  total : result.measures.totalItems.isSome = true ↔ result.success = true ∧ list
  returned : result.measures.returnedItems.isSome = result.measures.totalItems.isSome
  fewer : ∀ total ∈ result.measures.totalItems, ∀ returned ∈ result.measures.returnedItems,
    returned ≤ total

theorem counted_failed (tool : String) (e : ToolError) (list : Prop) :
    Counted (.failed tool e) list where
  total := iff_of_false (fun h => nomatch h) fun h => nomatch h.1
  returned := rfl
  fewer := fun _ h => nomatch h

theorem resultOf_counted (t : Tool) (call : ToolCall) (outcome : Except Gateway.Failure Json) :
    Counted (resultOf t call outcome) (t.filters ≠ []) := by
  cases outcome with
  | error f => exact counted_failed _ _ _
  | ok response =>
    by_cases hlist : t.isList = true
    · rw [resultOf_list hlist]
      rcases filterList_cases t call response with ⟨e, -, hfails⟩ | ⟨items, kept, -, hkept, hlists⟩
      · rw [hfails]
        exact counted_failed _ _ _
      · rw [hlists]
        refine ⟨iff_of_true rfl ⟨rfl, (isList_iff t).mp hlist⟩, rfl, ?_⟩
        intro total htotal returned hreturned
        obtain rfl : items.length = total := Option.some.inj htotal
        obtain rfl : kept.length = returned := Option.some.inj hreturned
        exact hkept.length_le
    · rw [resultOf_other hlist]
      have hfilters : ¬ t.filters ≠ [] := fun h => hlist ((isList_iff t).mpr h)
      exact ⟨iff_of_false (fun h => nomatch h) fun h => hfilters h.2, rfl, fun _ h => nomatch h⟩

/-- What decides a call that passed the checks. -/
theorem sent_decision {r : Registry} {call : ToolCall} {t : Tool}
    (ht : r.find? call.tool = some t) (hadmitted : Admitted t call) (limitMs : Option Nat)
    (gateway : Gateway) :
    let result := (sent t call limitMs (gateway t.name (request t call))).result
    result.tool = t.name ∧
      ∃ answer, Decision r limitMs gateway call t.name answer ∧ result.Gives answer := by
  intro result
  let reply := gateway t.name (request t call)
  have hresult : result = (resultOf t call (settle limitMs reply)).withDuration reply.measuredMs :=
    rfl
  rw [hresult]
  cases hlate : isLate limitMs reply with
  | true =>
    have hsettle : settle limitMs reply = .error .timeout := by simp [settle, hlate]
    have htime : ¬ InTime limitMs reply := by
      rw [← isLate_eq_false, hlate]
      decide
    rw [hsettle]
    exact ⟨rfl, _, .late ht hadmitted htime, .error rfl rfl rfl⟩
  | false =>
    have hsettle : settle limitMs reply = reply.outcome := by simp [settle, hlate]
    have htime : InTime limitMs reply := (isLate_eq_false limitMs reply).mp hlate
    rw [hsettle]
    cases hreply : reply.outcome with
    | error f =>
      exact ⟨rfl, _, .failed ht hadmitted htime hreply f.toldAs,
        .error rfl rfl rfl⟩
    | ok response =>
      by_cases hlist : t.isList = true
      · have hfilters := (isList_iff t).mp hlist
        rw [resultOf_list hlist]
        rcases filterList_cases t call response with
          ⟨e, hitems, hfails⟩ | ⟨items, kept, hitems, hkept, hlists⟩
        · obtain ⟨hcode, hnone⟩ := itemsOf_error hitems
          rw [hfails]
          exact ⟨rfl, _, .unlisted ht hadmitted htime hreply hfilters hnone hcode,
            .error rfl rfl rfl⟩
        · have hlisted := (itemsOf_eq_ok response items).mp hitems
          rw [hlists]
          exact ⟨rfl, _, .listed ht hadmitted htime hreply hfilters hlisted hkept, .ok rfl rfl rfl⟩
      · have hfilters : t.filters = [] := by
          rw [isList_iff] at hlist
          exact not_not.mp hlist
        rw [resultOf_other hlist]
        exact ⟨rfl, _, .answered ht hadmitted htime hreply hfilters,
          .ok rfl rfl rfl⟩

/-- The completion of a call that was sent tells whether it was answered in time. -/
theorem settle_toBool (limitMs : Option Nat) (reply : Gateway.Reply) :
    (settle limitMs reply).toBool = true ↔
      InTime limitMs reply ∧ ∃ v, reply.outcome = .ok v := by
  unfold settle
  cases hlate : isLate limitMs reply with
  | true =>
    rw [← isLate_eq_false, hlate]
    exact iff_of_false (fun h => nomatch h) fun h => nomatch h.1
  | false =>
    rw [← isLate_eq_false, hlate]
    cases reply.outcome with
    | error f => exact iff_of_false (fun h => nomatch h) fun ⟨_, _, h⟩ => nomatch h
    | ok v => exact iff_of_true rfl ⟨rfl, v, rfl⟩

end Invocation

namespace Registry

/-- A call that was not sent fails, and tells nothing else. -/
theorem complete_of_unsent {r : Registry} {limitMs : Option Nat} {gateway : Gateway}
    {call : ToolCall} {i : Invocation} {tool : String} {e : ToolError}
    (hresult : i.result = .failed tool e) (hsent : i.dispatched = [])
    (hprogress : i.progress = []) : i.Complete r limitMs gateway call where
  single := by rw [hresult]; rfl
  success := by rw [hresult]; rfl
  duration := by
    rw [hresult, hsent]
    exact iff_of_false (fun h => nomatch h) fun h => h rfl
  total := by
    rw [hresult]
    exact iff_of_false (fun h => nomatch h) fun h => nomatch h.1
  returned := by rw [hresult]; rfl
  fewer := by
    rw [hresult]
    exact fun _ h => nomatch h
  unsent := fun _ => hprogress
  sent := by
    rw [hsent]
    exact fun p hp => absurd hp List.not_mem_nil

/-- The first stage that a call does not pass decides it, and the result, its measures and the
progress tell of the call in full. -/
theorem invoke_decided (r : Registry) (limitMs : Option Nat) (gateway : Gateway) (call : ToolCall) :
    let i := r.invoke limitMs gateway call
    (∃ answer, Invocation.Decision r limitMs gateway call i.result.tool answer ∧
      i.result.Gives answer) ∧ i.Complete r limitMs gateway call := by
  intro i
  rcases r.invoke_cases call with hnone | ⟨t, e, ht, he⟩ | ⟨t, ht, hok⟩
  · have hi : i = .unknown call := invoke_of_unknown hnone limitMs gateway
    rw [hi]
    exact ⟨⟨_, .unknown hnone, .error rfl rfl rfl⟩, complete_of_unsent rfl rfl rfl⟩
  · have hi : i = .rejected t call e := invoke_of_rejected ht he limitMs gateway
    rw [hi]
    refine ⟨⟨_, ?_, .error rfl rfl rfl⟩, complete_of_unsent rfl rfl rfl⟩
    rcases Invocation.screen_cases he with
      ⟨hclasses, hconsent, rfl⟩ | ⟨hgate, v, rfl, hshape | ⟨hshape, hrules⟩⟩
    · exact .refused ht hclasses hconsent rfl
    · exact .misshapen ht hgate hshape
    · exact .unruly ht hgate hshape hrules
  · let reply := gateway t.name (Invocation.request t call)
    have hi : i = .sent t call limitMs reply := invoke_of_admitted ht hok limitMs gateway
    have hadmitted := (Invocation.admitted_iff t call).mp hok
    obtain ⟨htool, answer, hdecision, hgives⟩ :=
      Invocation.sent_decision ht hadmitted limitMs gateway
    have hcounted := Invocation.resultOf_counted t call (Invocation.settle limitMs reply)
    rw [hi]
    refine ⟨⟨answer, htool ▸ hdecision, hgives⟩, ?_⟩
    exact
      { single := hgives.single
        success := hgives.success_eq
        duration := iff_of_true rfl (List.cons_ne_nil _ _)
        total := by
          refine hcounted.total.trans (and_congr_right fun _ => ?_)
          exact ⟨fun h => ⟨t, ht, h⟩, fun ⟨t', ht', h⟩ => Option.some.inj (ht.symm.trans ht') ▸ h⟩
        returned := hcounted.returned
        fewer := hcounted.fewer
        unsent := fun h => absurd h (List.cons_ne_nil _ _)
        sent := by
          intro p hp
          obtain rfl := List.mem_singleton.mp hp
          exact ⟨rfl, _, rfl, Invocation.settle_toBool limitMs reply⟩ }

end Registry

end CloudGate
