import CloudGate.Catalog.Default
import CloudGate.Proofs.Invocation.Screen
import Mathlib.Data.List.Forall2

/-!
Sessions: calls made one after the other, against a gateway that may answer each of them as it
likes.

* `invoke_safe`: one call reaches the provider at most once, and only if it may.
* `session_forall`: what every single call keeps, a whole session keeps.
* `session_safe`: so no session sends a call that was not consented to or not checked.
-/

namespace CloudGate

/-! ## Registries in the making -/

inductive Registration
  | addTool (t : Tool)
  | addTools (ts : List Tool)
  | addAlias (spelling canonical : String)
  | addAliases (pairs : List (String × String))

namespace Registry

def apply (r : Registry) : Registration → Registry
  | .addTool t => r.register t
  | .addTools ts => r.registerAll ts
  | .addAlias spelling canonical => r.addAlias spelling canonical
  | .addAliases pairs => r.addAliases pairs

/-- The registry that a sequence of registrations leads to. -/
def build (steps : List Registration) : Registry := steps.foldl apply empty

end Registry

/-! ## Sessions -/

/-- How a gateway answers may depend on all that was sent to it before. -/
abbrev Gateway.Behaviour := List (String × ToolCall) → Gateway

/-- Invokes calls one after the other. `past` is what was sent before them. -/
def Registry.session (r : Registry) (limitMs : Option Nat) (behaviour : Gateway.Behaviour)
    (past : List (String × ToolCall)) : List ToolCall → List Invocation
  | [] => []
  | call :: rest =>
    let invocation := r.invoke limitMs (behaviour past) call
    invocation :: r.session limitMs behaviour (past ++ invocation.dispatched) rest

/-- A property that one call has behind any past is a property of all calls of a session. -/
theorem Registry.session_forall {P : ToolCall → Invocation → Prop} (r : Registry)
    (limitMs : Option Nat) (behaviour : Gateway.Behaviour) (calls : List ToolCall)
    (step : ∀ call ∈ calls, ∀ gateway, P call (r.invoke limitMs gateway call))
    (past : List (String × ToolCall)) :
    List.Forall₂ P calls (r.session limitMs behaviour past calls) := by
  induction calls generalizing past with
  | nil => exact List.Forall₂.nil
  | cons call rest ih =>
    have hcall := step call (List.mem_cons_self ..) (behaviour past)
    have hrest : ∀ c ∈ rest, ∀ gateway, P c (r.invoke limitMs gateway c) :=
      fun c hc => step c (List.mem_cons_of_mem _ hc)
    exact List.Forall₂.cons hcall (ih hrest _)

/-! ## One call -/

namespace Invocation

/-- An invocation that sends nothing it must not send. -/
structure Safe (r : Registry) (call : ToolCall) (i : Invocation) : Prop where
  once : i.dispatched.length ≤ 1
  /-- What is sent is the call itself, under the name of its tool and without the consent, and the
  call has passed every check. -/
  admitted : ∀ operation request, (operation, request) ∈ i.dispatched →
    ∃ t, r.find? call.tool = some t ∧ (t.classifications = [] ∨ call.Consents) ∧
      t.checkShape call = .ok () ∧ t.checkRules call = .ok () ∧ operation = t.name ∧
      request = { tool := t.name
                  arguments := call.arguments.filter fun p => p.1 ≠ Gate.confirmName }
  /-- The refusal of the gate depends on the tool alone. -/
  refused : ∀ t, r.find? call.tool = some t → t.classifications ≠ [] → ¬ call.Consents →
    i.dispatched = [] ∧ i.result = .failed t.name (refusal t) ∧
      (refusal t).code = ToolError.confirmationRequired

end Invocation

namespace Registry

theorem invoke_of_unknown {r : Registry} {call : ToolCall} (h : r.find? call.tool = none)
    (limitMs : Option Nat) (gateway : Gateway) :
    r.invoke limitMs gateway call = .unknown call := by
  simp [invoke, h]

theorem invoke_of_rejected {r : Registry} {call : ToolCall} {t : Tool} {e : ToolError}
    (h : r.find? call.tool = some t) (he : Invocation.screen t call = .error e)
    (limitMs : Option Nat) (gateway : Gateway) :
    r.invoke limitMs gateway call = .rejected t call e := by
  simp [invoke, h, he]

theorem invoke_of_admitted {r : Registry} {call : ToolCall} {t : Tool}
    (h : r.find? call.tool = some t) (hok : Invocation.screen t call = .ok ())
    (limitMs : Option Nat) (gateway : Gateway) :
    r.invoke limitMs gateway call =
      .sent t call limitMs (gateway t.name (Invocation.request t call)) := by
  simp [invoke, h, hok]

/-- A call is unknown, rejected by a check, or sent. -/
theorem invoke_cases (r : Registry) (call : ToolCall) :
    r.find? call.tool = none ∨
      (∃ t e, r.find? call.tool = some t ∧ Invocation.screen t call = .error e) ∨
      ∃ t, r.find? call.tool = some t ∧ Invocation.screen t call = .ok () := by
  cases h : r.find? call.tool with
  | none => exact Or.inl rfl
  | some t =>
    cases hs : Invocation.screen t call with
    | error e => exact Or.inr (Or.inl ⟨t, e, rfl, hs⟩)
    | ok u => exact Or.inr (Or.inr ⟨t, rfl, hs⟩)

theorem invoke_safe (r : Registry) (limitMs : Option Nat) (gateway : Gateway) {call : ToolCall}
    (h : call.arguments.Sorted) :
    Invocation.Safe r call (r.invoke limitMs gateway call) := by
  have hrefused : ∀ t, r.find? call.tool = some t → t.classifications ≠ [] → ¬ call.Consents →
      (r.invoke limitMs gateway call).dispatched = [] ∧
        (r.invoke limitMs gateway call).result = .failed t.name (Invocation.refusal t) ∧
          (Invocation.refusal t).code = ToolError.confirmationRequired := by
    intro t ht hclasses hconsent
    rw [invoke_of_rejected ht (Invocation.screen_of_refused hclasses hconsent)]
    exact ⟨rfl, rfl, rfl⟩
  rcases r.invoke_cases call with hnone | ⟨t, e, ht, he⟩ | ⟨t, ht, hok⟩
  · rw [invoke_of_unknown hnone] at hrefused ⊢
    exact ⟨Nat.zero_le _, fun _ _ hmem => absurd hmem List.not_mem_nil, hrefused⟩
  · rw [invoke_of_rejected ht he] at hrefused ⊢
    exact ⟨Nat.zero_le _, fun _ _ hmem => absurd hmem List.not_mem_nil, hrefused⟩
  · rw [invoke_of_admitted ht hok] at hrefused ⊢
    obtain ⟨hgate, hshape, hrules⟩ := (Invocation.screen_eq_ok t call).mp hok
    refine ⟨Nat.le_refl 1, fun operation request hmem => ?_, hrefused⟩
    have hsent : (operation, request) = (t.name, Invocation.request t call) :=
      List.mem_singleton.mp hmem
    obtain ⟨rfl, rfl⟩ := Prod.mk.inj hsent
    exact ⟨t, ht, hgate, hshape, hrules, rfl, Invocation.request_eq_filter t h⟩

/-- The gateway has no way into an invocation but its answers to what is sent. -/
theorem invoke_congr (r : Registry) (limitMs : Option Nat) {gateway gateway' : Gateway}
    {call : ToolCall}
    (h : ∀ p ∈ (r.invoke limitMs gateway call).dispatched, gateway p.1 p.2 = gateway' p.1 p.2) :
    r.invoke limitMs gateway call = r.invoke limitMs gateway' call := by
  rcases r.invoke_cases call with hnone | ⟨t, e, ht, he⟩ | ⟨t, ht, hok⟩
  · rw [invoke_of_unknown hnone, invoke_of_unknown hnone]
  · rw [invoke_of_rejected ht he, invoke_of_rejected ht he]
  · rw [invoke_of_admitted ht hok] at h ⊢
    rw [invoke_of_admitted ht hok]
    have hreply := h (t.name, Invocation.request t call) (List.mem_cons_self ..)
    rw [hreply]

/-! ## Whole sessions -/

/-- In every session on every registry each call reaches the gateway at most once, and only as the
checked call that was consented to. The answers of the gateway come in nowhere else. The arguments
of a call are a map, and every call of a command line has such (`CommandLine.requested_safe`). -/
theorem session_safe (steps : List Registration) (limitMs : Option Nat)
    (behaviour : Gateway.Behaviour) (calls : List ToolCall)
    (h : ∀ call ∈ calls, call.arguments.Sorted) :
    List.Forall₂ (Invocation.Safe (build steps)) calls
        ((build steps).session limitMs behaviour [] calls) ∧
      ∀ gateway gateway' call,
        (∀ p ∈ ((build steps).invoke limitMs gateway call).dispatched,
          gateway p.1 p.2 = gateway' p.1 p.2) →
        (build steps).invoke limitMs gateway call = (build steps).invoke limitMs gateway' call :=
  ⟨session_forall _ limitMs behaviour calls
      (fun call hcall gateway => invoke_safe _ limitMs gateway (h call hcall)) [],
    fun _ _ _ hcall => invoke_congr _ limitMs hcall⟩

/-- A balancer is deleted under an alias of the operation, and then a text that says true asks for
the same: only the first call is sent. -/
theorem session_safe_catalog :
    let steps : List Registration := [.addTools Catalog.tools, .addAliases Catalog.aliases]
    let behaviour : Gateway.Behaviour := fun _ _ _ => { outcome := .ok .null, afterMs := 5 }
    let calls : List ToolCall :=
      [⟨"delete_nodebalancer", [("confirm", .bool true), ("load_balancer_id", .str " +7 ")]⟩,
       ⟨"delete_nodebalancer", [("confirm", .str "true"), ("load_balancer_id", .int 7)]⟩]
    List.Forall₂ (Invocation.Safe (build steps)) calls
        ((build steps).session (some 1000) behaviour [] calls) ∧
      ((build steps).session (some 1000) behaviour [] calls).map
        (fun i => i.dispatched.map fun p => (p.1, p.2.tool, p.2.arguments.names)) =
        [[("delete_load_balancer", "delete_load_balancer", ["load_balancer_id"])], []] := by
  intro steps behaviour calls
  have hsorted : ∀ call ∈ calls, call.arguments.Sorted := by
    unfold Fields.Sorted
    decide +kernel
  exact ⟨(session_safe steps (some 1000) behaviour calls hsorted).1, by decide +kernel⟩

end Registry

end CloudGate
