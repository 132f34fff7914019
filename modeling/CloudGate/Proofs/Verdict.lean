import CloudGate.Tool.Definition
import Mathlib.Data.List.Forall2

/-!
When verdicts are favourable: one condition, a sequence of checks, the elements of a list, all rules
of an operation.
-/

namespace CloudGate

/-! ## Sequences of checks -/

theorem bind_eq_ok {ε α β : Type} {x : Except ε α} {f : α → Except ε β} {b : β} :
    x >>= f = .ok b ↔ ∃ a, x = .ok a ∧ f a = .ok b := by
  cases x with
  | error e => simp [bind, Except.bind]
  | ok a => simp [bind, Except.bind]

theorem bind_eq_error {ε α β : Type} {x : Except ε α} {f : α → Except ε β} {e : ε} :
    x >>= f = .error e ↔ x = .error e ∨ ∃ a, x = .ok a ∧ f a = .error e := by
  cases x with
  | error e' => simp [bind, Except.bind]
  | ok a => simp [bind, Except.bind]

/-- A check passes only with the one value of its type. -/
theorem unit_bind_eq_ok {ε β : Type} {x : Except ε Unit} {f : Unit → Except ε β} {b : β} :
    x >>= f = .ok b ↔ x = .ok () ∧ f () = .ok b := by
  rw [bind_eq_ok]
  exact ⟨fun ⟨(), hx, hf⟩ => ⟨hx, hf⟩, fun ⟨hx, hf⟩ => ⟨(), hx, hf⟩⟩

/-- Reading a list is reading its elements one by one. -/
theorem mapM_eq_ok {ε α β : Type} {f : α → Except ε β} {items : List α} {results : List β} :
    items.mapM f = .ok results ↔ List.Forall₂ (fun a b => f a = .ok b) items results := by
  induction items generalizing results with
  | nil => simp [pure, Except.pure, eq_comm]
  | cons a rest ih =>
    simp only [List.mapM_cons, bind_eq_ok, ih, List.forall₂_cons_left_iff]
    constructor
    · rintro ⟨b, hb, more, hmore, hok⟩
      exact ⟨b, more, hb, hmore, (Except.ok.inj hok).symm⟩
    · rintro ⟨b, more, hb, hmore, rfl⟩
      exact ⟨b, hb, more, hmore, rfl⟩

theorem mapError_eq_ok {ε ε' α : Type} {x : Except ε α} {f : ε → ε'} {a : α} :
    x.mapError f = .ok a ↔ x = .ok a := by
  cases x with
  | error e =>
    show (Except.error (f e) : Except ε' α) = .ok a ↔ _
    simp
  | ok b =>
    show (Except.ok b : Except ε' α) = .ok a ↔ _
    simp

theorem mapError_inj {ε ε' α : Type} {f : ε → ε'} (hf : Function.Injective f)
    {x y : Except ε α} : x.mapError f = y.mapError f ↔ x = y := by
  cases x <;> cases y <;> simp [Except.mapError, hf.eq_iff]

/-- A check that can be run to see that it passes. -/
theorem eq_ok_of_toBool {ε : Type} {x : Except ε Unit} (h : x.toBool = true) : x = .ok () := by
  cases x with
  | error e => contradiction
  | ok u => rfl

theorem ne_ok_of_toBool {ε : Type} {x : Except ε Unit} (h : x.toBool = false) : x ≠ .ok () := by
  rintro rfl
  contradiction

namespace Verdict

/-- The kind of the violation, if there is one. -/
def kind? : Verdict → Option Violation.Kind
  | .ok () => none
  | .error v => some v.kind

theorem kind?_eq_none {v : Verdict} : v.kind? = none ↔ v = .ok () := by
  cases v with
  | error e => simp [kind?]
  | ok u => simp [kind?]

theorem isPass_iff {v : Verdict} : v.isPass = true ↔ v = .ok () := by
  cases v with
  | error e => simp [isPass]
  | ok u => simp [isPass]

theorem kind?_require (condition : Bool) (kind : Violation.Kind) (message : String) :
    (require condition kind message).kind? = if condition then none else some kind := by
  cases condition <;> rfl

theorem kind?_reject {c : Prop} [Decidable c] {v : Violation} {rest : Verdict} :
    kind? (if c then .error v else rest) = if c then some v.kind else rest.kind? := by
  by_cases h : c <;> simp [h, kind?]

theorem require_eq_ok {condition : Bool} {kind : Violation.Kind} {message : String} :
    require condition kind message = .ok () ↔ condition = true := by
  cases condition <;> simp [require, pass, fail]

/-- A condition that must not hold, before the rest of a rule. -/
theorem reject_eq_ok {c : Prop} [Decidable c] {v : Violation} {rest : Verdict} :
    (if c then .error v else rest) = .ok () ↔ ¬ c ∧ rest = .ok () := by
  by_cases h : c <;> simp [h]

/-- The check of a list is the check of all of its elements. -/
theorem each_eq_ok {α : Type} {rule : α → Verdict} {items : List α} :
    each rule items = .ok () ↔ ∀ a ∈ items, rule a = .ok () := by
  have hfrom : ∀ index, eachFrom rule index items = .ok () ↔ ∀ a ∈ items, rule a = .ok () := by
    induction items with
    | nil => simp [eachFrom, pass]
    | cons a rest ih =>
      intro index
      rw [List.forall_mem_cons]
      cases h : rule a with
      | error v => simp [eachFrom, h]
      | ok u => simp only [eachFrom, h, ih, true_and]
  exact hfrom 0

end Verdict

/-- An operation accepts a call when all of its rules do. -/
theorem ArgumentRules.check_eq_ok (r : ArgumentRules) (call : ToolCall) :
    r.check call = .ok () ↔ ∀ rule ∈ r.rules, rule call = .ok () := by
  unfold check
  induction r.rules with
  | nil => simp [pure, Except.pure]
  | cons rule rest ih => simp only [List.forM, unit_bind_eq_ok, ih, List.forall_mem_cons]

namespace Tool

/-- The tool has a rule among its argument rules. -/
def Enforces (t : Tool) (rule : ToolCall → Verdict) : Prop :=
  ∃ r, t.rules = some r ∧ rule ∈ r.rules

theorem Enforces.holds {t : Tool} {rule : ToolCall → Verdict} (h : t.Enforces rule)
    {call : ToolCall} (hc : t.checkRules call = .ok ()) : rule call = .ok () := by
  obtain ⟨r, hr, hmem⟩ := h
  simp only [checkRules, hr] at hc
  exact (r.check_eq_ok call).mp hc rule hmem

end Tool

end CloudGate
