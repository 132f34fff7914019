import CloudGate.Proofs.Settings.Quoted
import Mathlib.Data.List.Chain

/-!
Elements between commas up to a closing bracket, whatever the elements are.

* `IsSequence.read`: a sequence is read up to its closing bracket if its elements are read.
* `exists_sequence`: only sequences are read as sequences.
-/

namespace CloudGate.Settings.Variable

/-- Elements between commas, with the bracket that closes them. A comma may stand before it too. -/
inductive IsSequence (close : Char) : List (List Char) → List Char → Prop
  | done {gap : List Char} (hgap : IsGap gap) : IsSequence close [] (gap ++ [close])
  | last (item : List Char) : IsSequence close [item] (item ++ [close])
  | next {item rest : List Char} {items : List (List Char)} (h : IsSequence close items rest) :
      IsSequence close (item :: items) (item ++ ',' :: rest)

/-! ## What follows -/

/-- The characters that may follow an element. -/
def isEnd (c : Char) : Bool := c == ',' || c == '\x7d' || c == ']'

theorem isEnd_cases {c : Char} (h : isEnd c = true) : c = ',' ∨ c = '\x7d' ∨ c = ']' := by
  simpa [isEnd, or_assoc] using h

theorem isSeparator_of_isEnd {c : Char} (h : isEnd c = true) : isSeparator c = true := by
  rcases isEnd_cases h with rfl | rfl | rfl
  · rfl
  · rfl
  · rfl

theorem not_blank_of_isEnd {c : Char} (h : isEnd c = true) : isBlank c = false := by
  rcases isEnd_cases h with rfl | rfl | rfl
  · rfl
  · rfl
  · rfl

/-- What may follow an element: nothing, a comma or a closing bracket. A single quote alone would
not end before a comma if another single quote came next. -/
structure Follows (lone : Prop) (rest : List Char) : Prop where
  ends : ∀ c ∈ rest.head?, isEnd c = true
  quote : lone → rest.tail.head? ≠ some '\''

theorem Follows.skipBlanks_eq {lone : Prop} {rest : List Char} (h : Follows lone rest) :
    skipBlanks rest = rest :=
  skipBlanks_of_head fun c hc => not_blank_of_isEnd (h.ends c hc)

/-! ## Sequences -/

section Sequences

variable {α : Type} {close : Char} {element : Reader α} {items : List (List Char)}
  {w rest : List Char}

/-- An element is read where it ends, whatever stands behind it. -/
def Reads (element : Reader α) (lone : Prop) (item : List Char) : Prop :=
  ∀ rest, Follows lone rest → ∃ a, element (item ++ rest) = some (a, rest)

/-- An element with no closing bracket at its start is not taken for the end of the sequence, unless
it is a gap before the end. -/
theorem isGap_of_head_eq {item : List Char} {c : Char} (hc : isBlank c = false)
    (hopen : (skipBlanks item).head? ≠ some close)
    (h : (skipBlanks (item ++ c :: rest)).head? = some close) : IsGap item ∧ c = close := by
  obtain ⟨gap, hitem, hgap⟩ := exists_gap item
  have hstart : skipBlanks (item ++ c :: rest) = skipBlanks item ++ c :: rest := by
    rw [hitem, List.append_assoc, skipBlanks_gap hgap, ← hitem]
    refine skipBlanks_of_head fun d hd => ?_
    cases hskip : skipBlanks item with
    | nil =>
      rw [hskip] at hd
      obtain rfl := Option.some.inj hd
      exact hc
    | cons e more =>
      rw [hskip] at hd
      obtain rfl := Option.some.inj hd
      exact not_blank_head?_skipBlanks (hskip ▸ rfl : e ∈ (skipBlanks item).head?)
  rw [hstart] at h
  cases hskip : skipBlanks item with
  | nil =>
    rw [hskip] at h hitem
    rw [List.append_nil] at hitem
    exact ⟨hitem ▸ hgap, Option.some.inj h⟩
  | cons e more =>
    rw [hskip] at h hopen
    exact absurd h hopen

theorem readSequence_close {gap : List Char} (hgap : IsGap gap) (hclose : isBlank close = false)
    (element : Reader α) (steps : Nat) (rest : List Char) :
    readSequence close element (steps + 1) (gap ++ close :: rest) = some ([], rest) := by
  have hskip : skipBlanks (gap ++ close :: rest) = close :: rest := by
    rw [skipBlanks_gap hgap]
    refine skipBlanks_of_head fun c hc => ?_
    obtain rfl := Option.some.inj hc
    exact hclose
  simp [readSequence, hskip]

theorem readSequence_of_open {cs : List Char} {a : α} {steps : Nat}
    (hopen : (skipBlanks cs).head? ≠ some close) {c : Char}
    (h : element cs = some (a, c :: rest)) :
    readSequence close element (steps + 1) cs =
      if c = ',' then (readSequence close element steps rest).map fun (more, rest) =>
        (a :: more, rest)
      else if c = close then some ([a], rest) else none := by
  rw [readSequence, if_neg hopen, h, Option.map_eq_bind]
  rfl

/-- The first character of a sequence is that of its first element, or of a gap, or it closes. -/
theorem IsSequence.head?_ne (h : IsSequence close items w) {c : Char} (hblank : isBlank c = false)
    (hclose : c ≠ close) (hcomma : c ≠ ',') (hfirst : ∀ item ∈ items.head?, item.head? ≠ some c)
    (rest : List Char) : (w ++ rest).head? ≠ some c := by
  intro hc
  cases h with
  | done hgap =>
    rename_i gap
    cases gap with
    | nil => exact hclose (Option.some.inj hc).symm
    | cons d more =>
      obtain rfl := Option.some.inj hc
      exact absurd (hgap _ (List.mem_cons_self ..)) (Bool.eq_false_iff.mp hblank)
  | last item =>
    cases item with
    | nil => exact hclose (Option.some.inj hc).symm
    | cons d more => exact hfirst _ rfl hc
  | next h =>
    rename_i item more items
    cases item with
    | nil => exact hcomma (Option.some.inj hc).symm
    | cons d more => exact hfirst _ rfl hc

/-- A sequence is read up to its closing bracket if its elements are read. -/
theorem IsSequence.read (h : IsSequence close items w) (hend : isEnd close = true)
    (hcomma : close ≠ ',') {lone : List Char → Prop}
    (hchain : items.IsChain fun a b => lone a → b.head? ≠ some '\'')
    (hitems : ∀ item ∈ items,
      (skipBlanks item).head? ≠ some close ∧ Reads element (lone item) item)
    {steps : Nat} (hsteps : w.length < steps) (hrest : rest.head? ≠ some '\'') :
    ∃ as, readSequence close element steps (w ++ rest) = some (as, rest) := by
  have hclose := not_blank_of_isEnd hend
  have hquote : '\'' ≠ close := by
    rintro rfl
    contradiction
  induction h generalizing steps with
  | done hgap =>
    cases steps with
    | zero => contradiction
    | succ steps =>
      rw [List.append_assoc, List.singleton_append]
      exact ⟨[], readSequence_close hgap hclose element steps rest⟩
  | last item =>
    obtain ⟨hopen, hread⟩ := hitems item (List.mem_singleton_self item)
    cases steps with
    | zero => contradiction
    | succ steps =>
      rw [List.append_assoc, List.singleton_append]
      by_cases hhead : (skipBlanks (item ++ close :: rest)).head? = some close
      · obtain ⟨hgap, -⟩ := isGap_of_head_eq hclose hopen hhead
        exact ⟨[], readSequence_close hgap hclose element steps rest⟩
      · obtain ⟨a, ha⟩ := hread (close :: rest)
          ⟨fun c hc => Option.some.inj hc ▸ hend, fun _ => hrest⟩
        exact ⟨[a], by rw [readSequence_of_open hhead ha, if_neg hcomma, if_pos rfl]⟩
  | next h ih =>
    rename_i item more items
    obtain ⟨⟨hopen, hread⟩, hitems⟩ := List.forall_mem_cons.mp hitems
    obtain ⟨hfirst, hchain⟩ := List.isChain_cons.mp hchain
    cases steps with
    | zero => contradiction
    | succ steps =>
      rw [List.append_assoc, List.cons_append]
      have hlength : more.length < steps := by
        simp only [List.length_append, List.length_cons] at hsteps
        omega
      have hhead : (skipBlanks (item ++ ',' :: (more ++ rest))).head? ≠ some close := fun hhead =>
        hcomma (isGap_of_head_eq (by decide) hopen hhead).2.symm
      obtain ⟨a, ha⟩ := hread (',' :: (more ++ rest))
        ⟨fun c hc => Option.some.inj hc ▸ rfl, fun hlone =>
          h.head?_ne (by decide) hquote (by decide) (fun b hb => hfirst b hb hlone) rest⟩
      obtain ⟨as, has⟩ := ih hchain hitems hlength
      exact ⟨a :: as, by rw [readSequence_of_open hhead ha, if_pos rfl, has]; rfl⟩

theorem IsSequence.head?_prefix (h : IsSequence close items w) {item : List Char}
    (hitem : item ∈ items.head?) : item <+: w := by
  cases h with
  | done => contradiction
  | last b =>
    obtain rfl := Option.some.inj hitem
    exact List.prefix_append b _
  | next h =>
    obtain rfl := Option.some.inj hitem
    exact List.prefix_append _ _

/-- Only sequences are read as sequences. -/
theorem exists_sequence {P lone : List Char → Prop}
    (hsound : ∀ {cs : List Char} {a : α} {rest : List Char}, element cs = some (a, rest) →
      ∃ item, cs = item ++ rest ∧ P item ∧ (lone item → rest.tail.head? ≠ some '\''))
    {steps : Nat} {cs : List Char} {as : List α}
    (h : readSequence close element steps cs = some (as, rest)) :
    ∃ items w, cs = w ++ rest ∧ IsSequence close items w ∧ (∀ item ∈ items, P item) ∧
      items.IsChain fun a b => lone a → b.head? ≠ some '\'' := by
  induction steps generalizing cs as with
  | zero => contradiction
  | succ steps ih =>
    unfold readSequence at h
    split at h
    · rename_i hclose
      obtain ⟨more, hmore⟩ := List.head?_eq_some_iff.mp hclose
      obtain ⟨gap, hcs, hgap⟩ := exists_gap cs
      obtain ⟨-, rfl⟩ := Prod.mk.inj (Option.some.inj h)
      rw [hmore] at hcs ⊢
      exact ⟨[], gap ++ [close], by simp [hcs], .done hgap, List.forall_mem_nil _, .nil⟩
    · obtain ⟨⟨a, left⟩, ha, htail⟩ := Option.bind_eq_some_iff.mp h
      obtain ⟨item, rfl, hitem, hlone⟩ := hsound ha
      cases left with
      | nil => contradiction
      | cons c left =>
        simp only at htail
        split at htail
        · rename_i hc
          obtain ⟨⟨more, left'⟩, hmore, heq⟩ := Option.bind_eq_some_iff.mp htail
          obtain ⟨-, rfl⟩ := Prod.mk.inj (Option.some.inj heq)
          obtain ⟨items, w, rfl, hw, hitems, hchain⟩ := ih hmore
          subst hc
          refine ⟨item :: items, item ++ ',' :: w, by simp, .next hw,
            List.forall_mem_cons.mpr ⟨hitem, hitems⟩, List.isChain_cons.mpr ⟨?_, hchain⟩⟩
          intro b hb halone hquote
          -- the text goes on with the next element
          obtain ⟨tail, rfl⟩ := hw.head?_prefix hb
          obtain ⟨more, rfl⟩ := List.head?_eq_some_iff.mp hquote
          exact hlone halone rfl
        · obtain ⟨hc, heq⟩ := Option.ite_none_right_eq_some.mp htail
          obtain ⟨-, rfl⟩ := Prod.mk.inj (Option.some.inj heq)
          subst hc
          exact ⟨[item], item ++ [c], by simp, .last item,
            List.forall_mem_singleton.mpr hitem, .singleton item⟩

end Sequences

end CloudGate.Settings.Variable
