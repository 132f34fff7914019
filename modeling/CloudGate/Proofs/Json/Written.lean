import CloudGate.Json.Printer
import CloudGate.Proofs.Json.Basic
import CloudGate.Proofs.Tool.Numeral

/-!
What is written for a value, in the compact form.

* `real_numeral`: a number with a fraction or an exponent is digits, signs, a point and an exponent
  letter.
* `render_printable`: control characters are escaped, so that the form is one line.
* `toList_render_arr`, `toList_render_obj`: the entries of a container stand between its brackets
  with commas between them.
-/

namespace CloudGate

/-! ## Numbers -/

namespace Decimal

/-- The characters of the numerals of binary64 numbers. -/
def isNumeralChar (c : Char) : Bool := c.isDigit || ['-', '+', '.', 'e'].contains c

/-- A text of such characters. -/
def IsNumeral (cs : List Char) : Prop := ∀ c ∈ cs, isNumeralChar c = true

instance (cs : List Char) : Decidable (IsNumeral cs) :=
  List.decidableBAll (isNumeralChar · = true) cs

theorem IsNumeral.append {front back : List Char} (hfront : IsNumeral front)
    (hback : IsNumeral back) : IsNumeral (front ++ back) :=
  List.forall_mem_append.mpr ⟨hfront, hback⟩

theorem IsNumeral.subset {front back : List Char} (h : IsNumeral back) (hsub : front ⊆ back) :
    IsNumeral front := fun c hc => h c (hsub hc)

theorem toDigits_numeral (n : Nat) : IsNumeral (Nat.toDigits 10 n) := by
  intro c hc
  rw [isNumeralChar, isDigit_of_mem_digits hc, Bool.true_or]

theorem zeros_numeral (n : Nat) : IsNumeral (zeros n) := by
  intro c hc
  obtain rfl := List.eq_of_mem_replicate hc
  rfl

theorem positional_numeral {digits : List Char} (h : IsNumeral digits) (point : Int)
    (fraction : Bool) : IsNumeral (positional digits point fraction) := by
  unfold positional
  split
  · exact ((by decide : IsNumeral ['0', '.']).append (zeros_numeral _)).append h
  · simp only
    split
    · refine (h.append (zeros_numeral _)).append ?_
      cases fraction <;> decide
    · refine (h.subset (List.take_subset ..)).append ?_
      exact (by decide : IsNumeral ['.']).append (h.subset (List.drop_subset ..))

theorem scientific_numeral {digits : List Char} (h : IsNumeral digits) (power : Int) :
    IsNumeral (scientific digits power) := by
  have hfraction : IsNumeral (digits.drop 1) := h.subset (List.drop_subset ..)
  unfold scientific
  refine (((h.subset (List.take_subset ..)).append ?_).append ?_).append (toDigits_numeral _)
  · split
    · decide
    · exact (by decide : IsNumeral ['.']).append hfraction
  · split
    · decide
    · decide

theorem signed_numeral {cs : List Char} (h : IsNumeral cs) (negative : Bool) :
    IsNumeral (signed negative cs).toList := by
  unfold signed
  rw [String.toList_ofList]
  split
  · exact (by decide : IsNumeral ['-']).append h
  · exact h

theorem real_numeral (x : Binary64) : IsNumeral x.render.toList := by
  unfold Binary64.render
  split
  · exact signed_numeral (by decide) _
  · refine signed_numeral ?_ _
    split
    · exact positional_numeral (toDigits_numeral _) _ _
    · exact scientific_numeral (toDigits_numeral _) _

end Decimal

namespace Json

open Decimal (IsNumeral isNumeralChar)

theorem number_numeral (n : Number) : IsNumeral n.render.toList := by
  cases n with
  | int n =>
    intro c hc
    rcases numeral_char hc with hdigit | rfl
    · rw [isNumeralChar, hdigit, Bool.true_or]
    · rfl
  | real x => exact Decimal.real_numeral x

/-! ## Entries of containers -/

/-- What is written between the brackets of a container. -/
def entries {α : Type} (text : α → List Char) : List α → List Char
  | [] => []
  | a :: rest => text a ++ rest.flatMap fun a => ',' :: text a

theorem entries_cons_cons {α : Type} (text : α → List Char) (a b : α) (rest : List α) :
    entries text (a :: b :: rest) = text a ++ ',' :: entries text (b :: rest) := by
  simp [entries]

theorem toList_renderItems (items : List Json) :
    (renderItems items).toList = entries (fun v => v.render.toList) items := by
  induction items with
  | nil => rfl
  | cons v rest ih =>
    cases rest with
    | nil => simp [renderItems, entries]
    | cons w rest => simp [renderItems, entries_cons_cons, ih]

/-- One member of an object. -/
def memberText (p : String × Json) : List Char :=
  (renderString p.1).toList ++ ':' :: p.2.render.toList

theorem toList_renderMembers (members : List (String × Json)) :
    (renderMembers members).toList = entries memberText members := by
  induction members with
  | nil => rfl
  | cons p rest ih =>
    cases rest with
    | nil => simp [renderMembers, entries, memberText]
    | cons q rest => simp [renderMembers, entries_cons_cons, memberText, ih]

theorem toList_render_arr (items : List Json) :
    (Json.arr items).render.toList =
      '[' :: (entries (fun v => v.render.toList) items ++ [']']) := by
  rw [render, String.toList_append, String.toList_append, toList_renderItems]
  rfl

theorem toList_render_obj (members : List (String × Json)) :
    (Json.obj members).render.toList = '\x7b' :: (entries memberText members ++ ['\x7d']) := by
  rw [render, String.toList_append, String.toList_append, toList_renderMembers]
  rfl

/-! ## No control characters -/

/-- A text without control characters. -/
def IsPrintable (cs : List Char) : Prop := ∀ c ∈ cs, 0x20 ≤ c.toNat

instance (cs : List Char) : Decidable (IsPrintable cs) :=
  List.decidableBAll (0x20 ≤ Char.toNat ·) cs

theorem IsPrintable.append {front back : List Char} (hfront : IsPrintable front)
    (hback : IsPrintable back) : IsPrintable (front ++ back) :=
  List.forall_mem_append.mpr ⟨hfront, hback⟩

theorem IsPrintable.cons {c : Char} {cs : List Char} (hc : 0x20 ≤ c.toNat) (h : IsPrintable cs) :
    IsPrintable (c :: cs) :=
  List.forall_mem_cons.mpr ⟨hc, h⟩

theorem IsPrintable.flatMap {α : Type} {items : List α} {f : α → List Char}
    (h : ∀ a ∈ items, IsPrintable (f a)) : IsPrintable (items.flatMap f) := by
  intro c hc
  obtain ⟨a, ha, hca⟩ := List.mem_flatMap.mp hc
  exact h a ha c hca

theorem IsPrintable.entries {α : Type} {items : List α} {text : α → List Char}
    (h : ∀ a ∈ items, IsPrintable (text a)) : IsPrintable (entries text items) := by
  cases items with
  | nil => exact fun _ hc => absurd hc List.not_mem_nil
  | cons a rest =>
    obtain ⟨ha, hrest⟩ := List.forall_mem_cons.mp h
    exact ha.append (.flatMap fun b hb => .cons (by decide) (hrest b hb))

theorem IsPrintable.newline_not_mem {cs : List Char} (h : IsPrintable cs) : '\n' ∉ cs :=
  fun hmem => absurd (h _ hmem) (by decide)

theorem numeral_printable {cs : List Char} (h : IsNumeral cs) : IsPrintable cs := by
  intro c hc
  have hnumeral := h c hc
  rw [isNumeralChar, Bool.or_eq_true] at hnumeral
  rcases hnumeral with hdigit | hsign
  · rw [Char.isDigit, Bool.and_eq_true, decide_eq_true_eq] at hdigit
    exact Nat.le_trans (by decide) hdigit.1
  · have hall : IsPrintable ['-', '+', '.', 'e'] := by decide
    exact hall c (List.contains_iff_mem.mp hsign)

theorem escapeChar_printable (c : Char) : IsPrintable (escapeChar c) := by
  unfold escapeChar
  -- the characters with a short escape
  iterate 7
    split
    · decide
  split
  · rename_i hcontrol
    have hhex : ∀ n < 32, IsPrintable
        ['\\', 'u', '0', '0', Nat.digitChar (n / 16), Nat.digitChar (n % 16)] := by decide
    exact hhex _ hcontrol
  · rename_i hcontrol
    exact List.forall_mem_singleton.mpr (Nat.le_of_not_lt hcontrol)

theorem renderString_printable (s : String) : IsPrintable (renderString s).toList := by
  have hinside : IsPrintable (s.toList.flatMap escapeChar) :=
    .flatMap fun c _ => escapeChar_printable c
  rw [renderString, String.toList_ofList]
  exact (IsPrintable.cons (by decide) hinside).append (by decide)

/-- Texts escape the control characters, and nothing else that is written has any. -/
theorem render_printable (v : Json) : IsPrintable v.render.toList := by
  induction v using entryInduction with
  | null => decide
  | bool b => cases b <;> decide
  | num n => exact numeral_printable (number_numeral n)
  | str s => exact renderString_printable s
  | arr items ih =>
    rw [toList_render_arr]
    exact .cons (by decide) ((IsPrintable.entries ih).append (by decide))
  | obj members ih =>
    have hmember : ∀ p ∈ members, IsPrintable (memberText p) := fun p hp =>
      (renderString_printable p.1).append (.cons (by decide) (ih p hp))
    rw [toList_render_obj]
    exact .cons (by decide) ((IsPrintable.entries hmember).append (by decide))

end Json

end CloudGate
