import CloudGate.Proofs.Operation.Argument
import CloudGate.Proofs.Tool.Numeral
import CloudGate.Request.Prepared

/-!
Identifiers are read by two readers: the rules read the value of an argument, the path of the
request takes the text that is written for it. Both find the same integer, or both find none.

* `render_mark`: a number that is no integer is written with a point or an exponent.
* `int?_eq_some_iff`, `fillArgument_cases`: what each reader makes of a value.
* `identifier_read_alike`: so they agree on every value.
-/

namespace CloudGate

/-! ## Numbers that are no integers -/

namespace Decimal

theorem point_mem_positional (digits : List Char) (point : Int) :
    '.' ∈ positional digits point true := by
  unfold positional
  split
  · simp
  · simp only
    split
    · simp
    · simp

theorem exponent_mem_scientific (digits : List Char) (power : Int) :
    'e' ∈ scientific digits power := by
  unfold scientific
  simp

theorem mem_signed {c : Char} {cs : List Char} (h : c ∈ cs) (negative : Bool) :
    c ∈ (signed negative cs).toList := by
  unfold signed
  rw [String.toList_ofList]
  split
  · exact List.mem_cons_of_mem _ h
  · exact h

theorem render_mark (x : Binary64) : '.' ∈ x.render.toList ∨ 'e' ∈ x.render.toList := by
  unfold Binary64.render
  split
  · exact .inl (mem_signed (by decide) _)
  · simp only
    split
    · exact .inl (mem_signed (point_mem_positional _ _) _)
    · exact .inr (mem_signed (exponent_mem_scientific _ _) _)

end Decimal

theorem SignedDigits.no_mark {cs : List Char} {n : Int} (h : SignedDigits cs n) :
    '.' ∉ cs ∧ 'e' ∉ cs := by
  constructor
  · intro hmem
    exact absurd (h.char _ hmem) (by decide)
  · intro hmem
    exact absurd (h.char _ hmem) (by decide)

/-! ## Integers in values -/

/-- A value stands for an integer: a number that is one, or a text of digits after an optional sign,
with blanks around it. -/
inductive Json.StandsFor : Json → Int → Prop
  | number (n : Int) : StandsFor (.num (.int n)) n
  | text {s : String} {front digits back : List Char} {n : Int}
    (hs : s.toList = front ++ digits ++ back) (hfront : Text.Blanks front)
    (hback : Text.Blanks back) (h : SignedDigits digits n) : StandsFor (.str s) n

/-- What is left of a text without the blanks around it decides. -/
theorem Json.standsFor_str {s : String} {n : Int} :
    (Json.str s).StandsFor n ↔ SignedDigits (Text.trimChars s.toList) n := by
  constructor
  · intro h
    cases h with
    | text hs hfront hback h =>
      rw [hs, Text.trimChars_padded hfront hback h.bare]
      exact h
  · intro h
    obtain ⟨front, back, hs, hfront, hback⟩ := Text.exists_padding s.toList
    exact .text hs hfront hback h

theorem Json.standsFor_num {m : Json.Number} {n : Int} :
    (Json.num m).StandsFor n ↔ m = .int n := by
  constructor
  · intro h
    cases h with
    | number => rfl
  · rintro rfl
    exact .number n

theorem Json.StandsFor.unique {v : Json} {n m : Int} (h : v.StandsFor n) (h' : v.StandsFor m) :
    n = m := by
  cases v with
  | num k => exact Json.Number.int.inj ((standsFor_num.mp h).symm.trans (standsFor_num.mp h'))
  | str s => exact (standsFor_str.mp h).unique (standsFor_str.mp h')
  | null | bool _ | arr _ | obj _ => cases h

/-! ## The rules -/

theorem ToolCall.int?_eq_some_iff {call : ToolCall} {key : String} {v : Json}
    (hget : call.get? key = some v) {n : Int} :
    call.int? key = .ok (some n) ↔ v.StandsFor n ∧ fitsInt64 n = true := by
  rw [call.int?_eq_some, hget]
  cases v with
  | num m =>
    rw [Json.standsFor_num]
    simp
  | str s =>
    rw [Json.standsFor_str, ← parseInt64?_eq_some]
    simp
  | null | bool _ | arr _ | obj _ =>
    constructor
    · rintro (⟨⟨⟩, -⟩ | ⟨s, ⟨⟩, -⟩)
    · rintro ⟨⟨⟩, -⟩

/-- Null counts as missing, and every other value that stands for no integer is refused. -/
theorem ToolCall.int?_of_not_standsFor {call : ToolCall} {key : String} {v : Json}
    (hget : call.get? key = some v) (h : ∀ n, fitsInt64 n = true → ¬ v.StandsFor n) :
    (v = .null ∧ call.int? key = .ok none) ∨
      (v ≠ .null ∧ call.int? key = .error
        ⟨.invalidFormat, "got " ++ v.render ++ ": " ++ key ++ " must be an integer"⟩) := by
  unfold int?
  rw [hget]
  cases v with
  | null => exact .inl ⟨rfl, rfl⟩
  | num m =>
    refine .inr ⟨nofun, ?_⟩
    cases m with
    | int m =>
      have hfits : ¬ fitsInt64 m = true := fun hfits => h m hfits (.number m)
      simp only [hfits, Bool.false_eq_true, ↓reduceIte]
    | real x => rfl
  | str s =>
    refine .inr ⟨nofun, ?_⟩
    cases hparse : parseInt64? (Text.trimChars s.toList) with
    | none => simp only [hparse]
    | some n =>
      obtain ⟨hdigits, hfits⟩ := parseInt64?_eq_some.mp hparse
      exact absurd (Json.standsFor_str.mpr hdigits) (h n hfits)
  | bool _ | arr _ | obj _ => exact .inr ⟨nofun, rfl⟩

namespace Request

/-! ## The path -/

theorem standsFor_of_segmentText? {v : Json} {text : String} {n : Int}
    (htext : segmentText? (some v) = some text)
    (h : SignedDigits (Text.trimChars text.toList) n) : v.StandsFor n := by
  cases v with
  | num m =>
    obtain rfl : m.render = text := Option.some.inj htext
    cases m with
    | int m =>
      have hm := signedDigits_numeral m
      have hsame : SignedDigits (toString m).toList n := Text.trimChars_bare hm.bare ▸ h
      rw [hm.unique hsame]
      exact .number n
    | real x =>
      obtain ⟨hpoint, hexponent⟩ := h.no_mark
      rcases Decimal.render_mark x with hmark | hmark
      · exact absurd (Text.mem_trimChars hmark rfl) hpoint
      · exact absurd (Text.mem_trimChars hmark rfl) hexponent
  | str s =>
    have hs : s = text := by
      unfold segmentText? at htext
      simp only at htext
      split at htext
      · contradiction
      · exact Option.some.inj htext
    exact Json.standsFor_str.mpr (hs ▸ h)
  | null | bool _ | arr _ | obj _ => contradiction

theorem segmentText?_of_standsFor {v : Json} {n : Int} (h : v.StandsFor n) :
    ∃ text, segmentText? (some v) = some text ∧
      SignedDigits (Text.trimChars text.toList) n := by
  cases v with
  | num m =>
    obtain rfl := Json.standsFor_num.mp h
    have hn := signedDigits_numeral n
    refine ⟨toString n, rfl, ?_⟩
    rw [Text.trimChars_bare hn.bare]
    exact hn
  | str s =>
    have hdigits := Json.standsFor_str.mp h
    have hempty : ¬ s.isEmpty = true := by
      rw [String.isEmpty_iff]
      rintro rfl
      exact hdigits.ne_nil rfl
    exact ⟨s, if_neg hempty, hdigits⟩
  | null | bool _ | arr _ | obj _ => cases h

/-- An identifier in the path is the integer that the value stands for, and there is none for any
other value. -/
theorem fillArgument_cases {name : String} (hname : isIdentifierName name = true) (v : Json) :
    (∃ n, v.StandsFor n ∧ fitsInt64 n = true ∧ fillArgument name (some v) = .ok (toString n)) ∨
      ((∀ n, v.StandsFor n → fitsInt64 n = false) ∧
        ∃ reason, fillArgument name (some v) = .error (.unsupported reason)) := by
  unfold fillArgument
  cases htext : segmentText? (some v) with
  | none =>
    refine .inr ⟨fun n hn => ?_, _, rfl⟩
    obtain ⟨text, hsome, -⟩ := segmentText?_of_standsFor hn
    rw [htext] at hsome
    contradiction
  | some text =>
    simp only [hname, ↓reduceIte]
    cases hparse : parseInt64? (Text.trimChars text.toList) with
    | some n =>
      obtain ⟨hdigits, hfits⟩ := parseInt64?_eq_some.mp hparse
      exact .inl ⟨n, standsFor_of_segmentText? htext hdigits, hfits, rfl⟩
    | none =>
      refine .inr ⟨fun n hn => ?_, _, rfl⟩
      obtain ⟨text', hsome, hdigits⟩ := segmentText?_of_standsFor hn
      obtain rfl := Option.some.inj (htext.symm.trans hsome)
      refine Bool.eq_false_iff.mpr fun hfits => ?_
      rw [parseInt64?_eq_some.mpr ⟨hdigits, hfits⟩] at hparse
      contradiction

theorem toString_injective {n m : Int} (h : toString n = toString m) : n = m := by
  have hn := signedDigits_numeral n
  rw [h] at hn
  exact hn.unique (signedDigits_numeral m)

/-- The rules read an argument as an integer exactly if the path takes the numeral of this integer
for it, which is exactly if the value stands for the integer. All other values are refused by both,
but for null, which the rules take for a missing argument. -/
theorem identifier_read_alike {call : ToolCall} {key name : String} {v : Json}
    (hget : call.get? key = some v) (hname : isIdentifierName name = true) :
    (∀ n, fitsInt64 n = true →
      (call.int? key = .ok (some n) ↔ fillArgument name (some v) = .ok (toString n)) ∧
      (call.int? key = .ok (some n) ↔ v.StandsFor n)) ∧
    ((∀ n, fitsInt64 n = true → ¬ v.StandsFor n) →
      ((v = .null ∧ call.int? key = .ok none) ∨
        (v ≠ .null ∧ call.int? key = .error
          ⟨.invalidFormat, "got " ++ v.render ++ ": " ++ key ++ " must be an integer"⟩)) ∧
      ∃ reason, fillArgument name (some v) = .error (.unsupported reason)) := by
  have hread : ∀ n, call.int? key = .ok (some n) ↔ v.StandsFor n ∧ fitsInt64 n = true :=
    fun n => ToolCall.int?_eq_some_iff hget
  rcases fillArgument_cases hname v with ⟨m, hm, hmfits, hfill⟩ | ⟨hnone, reason, hfill⟩
  · refine ⟨fun n hfits => ⟨?_, ?_⟩, fun h => absurd hm (h m hmfits)⟩
    · rw [hread, hfill, Except.ok.injEq]
      constructor
      · rintro ⟨hn, -⟩
        rw [hm.unique hn]
      · intro hsame
        rw [← toString_injective hsame]
        exact ⟨hm, hmfits⟩
    · rw [hread, and_iff_left hfits]
  · refine ⟨fun n hfits => ⟨?_, ?_⟩,
      fun h => ⟨ToolCall.int?_of_not_standsFor hget h, reason, hfill⟩⟩
    · rw [hread, hfill]
      constructor
      · rintro ⟨hn, -⟩
        exact absurd hfits (Bool.eq_false_iff.mp (hnone n hn))
      · intro h
        contradiction
    · rw [hread, and_iff_left hfits]

/-- A text with blanks around it and a sign. -/
theorem identifier_read_alike_padded :
    let call : ToolCall := ⟨"get_volume", [("volume_id", .str " +42\n")]⟩
    call.get? "volume_id" = some (.str " +42\n") ∧ isIdentifierName "volume_id" = true ∧
      call.int? "volume_id" = .ok (some 42) ∧
      fillArgument "volume_id" (some (.str " +42\n")) = .ok "42" := by
  intro call
  have hget : call.get? "volume_id" = some (.str " +42\n") := rfl
  have hname : isIdentifierName "volume_id" = true := by decide
  obtain ⟨halike, hstands⟩ := (identifier_read_alike hget hname).1 42 (by decide)
  have hdigits : DigitRun ['4', '2'] 42 :=
    ⟨by decide, List.forall_mem_cons.mpr ⟨rfl, List.forall_mem_singleton.mpr rfl⟩, by decide⟩
  have hread : call.int? "volume_id" = .ok (some 42) :=
    hstands.mpr (Json.standsFor_str.mpr (.plus hdigits))
  exact ⟨hget, hname, hread, halike.mp hread⟩

end Request

end CloudGate
