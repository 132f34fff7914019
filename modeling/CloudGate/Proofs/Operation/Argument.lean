import CloudGate.Operation.Argument
import CloudGate.Proofs.Rule.Resource

/-!
What an argument rule says about the argument, from what its rule for values says about the value.

* `textual_eq_ok`: a rule that refuses the empty text insists on a text.
* `integer_eq_ok`, `optionalText_eq_ok`, `optionalInteger_eq_ok`: the other sorts of arguments.
* `int?_eq_some`: what reads as an integer.
-/

namespace CloudGate

namespace ToolCall

/-- The argument is missing or null. -/
def Lacks (call : ToolCall) (key : String) : Prop :=
  call.get? key = none ∨ call.get? key = some .null

/-- The argument is a text with a property. -/
def Gives (call : ToolCall) (key : String) (P : String → Prop) : Prop :=
  ∃ s, call.get? key = some (.str s) ∧ P s

/-- The argument reads as an integer with a property. -/
def Counts (call : ToolCall) (key : String) (P : Int → Prop) : Prop :=
  ∃ n, call.int? key = .ok (some n) ∧ P n

theorem Gives.imp {call : ToolCall} {key : String} {P Q : String → Prop} (h : call.Gives key P)
    (hPQ : ∀ s, P s → Q s) : call.Gives key Q := by
  obtain ⟨s, hs, hP⟩ := h
  exact ⟨s, hs, hPQ s hP⟩

/-! ## Reading -/

/-- Without a text under the name the empty text is read. -/
theorem text_cases (call : ToolCall) (key : String) :
    (∃ s, call.get? key = some (.str s) ∧ call.text key = s) ∨ call.text key = "" := by
  unfold text string?
  cases h : call.get? key with
  | none => exact Or.inr rfl
  | some v =>
    cases v with
    | str s => exact Or.inl ⟨s, rfl, rfl⟩
    | _ => exact Or.inr rfl

theorem int?_eq_none (call : ToolCall) (key : String) :
    call.int? key = .ok none ↔ call.Lacks key := by
  unfold int? Lacks
  cases h : call.get? key with
  | none => simp
  | some v =>
    cases v with
    | num n =>
      cases n with
      | int n => by_cases hn : fitsInt64 n = true <;> simp [hn]
      | real x => simp
    | str s => cases hs : parseInt64? (Text.trimChars s.toList) <;> simp [hs]
    | _ => simp

/-- An integer argument is a number or the text of one. -/
theorem int?_eq_some (call : ToolCall) (key : String) (n : Int) :
    call.int? key = .ok (some n) ↔
      (call.get? key = some (.num (.int n)) ∧ fitsInt64 n = true) ∨
      ∃ s, call.get? key = some (.str s) ∧ parseInt64? (Text.trimChars s.toList) = some n := by
  unfold int?
  cases h : call.get? key with
  | none => simp
  | some v =>
    cases v with
    | num m =>
      cases m with
      | int m =>
        by_cases hm : fitsInt64 m = true
        · simp only [hm, ↓reduceIte, Except.ok.injEq, Option.some.injEq, Json.num.injEq,
            Json.Number.int.injEq, reduceCtorEq, false_and, exists_false, or_false]
          exact ⟨fun e => ⟨e, e ▸ hm⟩, And.left⟩
        · simp only [hm, Bool.false_eq_true, ↓reduceIte, reduceCtorEq, Option.some.injEq,
            Json.num.injEq, Json.Number.int.injEq, false_and, exists_false, or_false, false_iff,
            not_and]
          rintro rfl
          exact hm
      | real x => simp
    | str s => cases hs : parseInt64? (Text.trimChars s.toList) <;> simp [hs]
    | _ => simp

end ToolCall

namespace Operation

/-! ## Texts -/

theorem textual_eq_ok {key : String} {rule : String → Verdict} (hempty : rule "" ≠ .ok ())
    (call : ToolCall) :
    textual key rule call = .ok () ↔ call.Gives key fun s => rule s = .ok () := by
  unfold textual
  constructor
  · intro h
    rcases call.text_cases key with ⟨s, hs, htext⟩ | htext
    · exact ⟨s, hs, htext ▸ h⟩
    · exact absurd (htext ▸ h) hempty
  · rintro ⟨s, hs, h⟩
    have htext : call.text key = s := by simp [ToolCall.text, ToolCall.string?, hs, Json.str?]
    rw [htext, h]

theorem optionalText_eq_ok (key : String) (rule : String → Verdict) (call : ToolCall) :
    optionalText key rule call = .ok () ↔
      call.Lacks key ∨ call.Gives key fun s => rule s = .ok () := by
  unfold optionalText ToolCall.Lacks ToolCall.Gives
  cases h : call.get? key with
  | none => simp [Verdict.pass]
  | some v => cases v <;> simp [Verdict.pass, Verdict.fail]

/-- A rule that refuses the empty text makes sure of the texts that it accepts. -/
theorem gives_of_textual {key : String} {rule : String → Verdict} {P : String → Prop}
    (hrule : ∀ s, rule s = .ok () → P s) (hempty : rule "" ≠ .ok ()) {call : ToolCall}
    (h : textual key rule call = .ok ()) : call.Gives key P :=
  ((textual_eq_ok hempty call).mp h).imp hrule

theorem gives_of_optionalText {key : String} {rule : String → Verdict} {P : String → Prop}
    (hrule : ∀ s, rule s = .ok () → P s) {call : ToolCall}
    (h : optionalText key rule call = .ok ()) : call.Lacks key ∨ call.Gives key P :=
  ((optionalText_eq_ok key rule call).mp h).imp_right fun hgives => hgives.imp hrule

/-! ## Integers -/

theorem integer_eq_ok (key : String) (rule : Int → Verdict) (call : ToolCall) :
    integer key rule call = .ok () ↔ call.Counts key fun n => rule n = .ok () := by
  unfold integer ToolCall.Counts
  cases call.int? key with
  | error v => simp
  | ok o => cases o <;> simp

theorem optionalInteger_eq_ok (key : String) (rule : Int → Verdict) (call : ToolCall) :
    optionalInteger key rule call = .ok () ↔
      call.Lacks key ∨ call.Counts key fun n => rule n = .ok () := by
  rw [← call.int?_eq_none]
  unfold optionalInteger ToolCall.Counts
  cases call.int? key with
  | error v => simp
  | ok o => cases o <;> simp [Verdict.pass]

/-! ## The arguments that many operations have -/

theorem identifier_eq_ok (key : String) (call : ToolCall) :
    identifier key call = .ok () ↔ call.Counts key (0 < ·) := by
  unfold identifier
  rw [integer_eq_ok]
  simp only [Rule.resourceId_eq_ok]

theorem region_eq_ok (key : String) (call : ToolCall) :
    region key call = .ok () ↔ call.Gives key Rule.RegionName := by
  unfold region
  rw [textual_eq_ok (by simp [Rule.region])]
  simp only [Rule.region_eq_ok]

end Operation

end CloudGate
