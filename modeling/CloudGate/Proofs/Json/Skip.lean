import CloudGate.Proofs.Json.Reader

/-!
Passing a value over without reading it. Whatever can be read can be passed over, and then the same
text is left.

* `skipString_of_readChars`, `skipNumber_of_readNumber`: strings and numbers.
* `passesItem_of_readValue`: values, with a stack of open containers in the place of the recursion.
* `skipValue_of_readValue`: so no value is passed over that ends elsewhere for a reader.
-/

namespace CloudGate.Json

/-! ## Strings -/

theorem readHex_length {cs rest : List Char} {n : Nat} (h : readHex cs = .ok (n, rest)) :
    rest.length < cs.length := by
  unfold readHex at h
  split at h
  · contradiction
  · split at h
    · split at h
      · obtain ⟨-, rfl⟩ := Prod.mk.inj (Except.ok.inj h)
        simp only [List.length_cons]
        omega
      · contradiction
    · contradiction

theorem skipEscape_length {cs rest : List Char} (h : skipEscape cs = .ok rest) :
    rest.length < cs.length := by
  unfold skipEscape at h
  split at h
  · contradiction
  · obtain ⟨⟨n, left⟩, hhex, hok⟩ := bind_eq_ok.mp h
    obtain rfl := Except.ok.inj hok
    exact Nat.lt_succ_of_lt (readHex_length hhex)
  · split at h
    · obtain rfl := Except.ok.inj h
      exact Nat.lt_succ_self _
    · contradiction

theorem skipEscape_of_readHex {cs rest : List Char} {n : Nat} (h : readHex cs = .ok (n, rest)) :
    skipEscape ('u' :: cs) = .ok rest := by
  simp only [skipEscape, h]
  rfl

/-- The second of two surrogates is an escape of its own. -/
theorem skipEscape_of_readTrailing {lead : Nat} {cs rest : List Char} {c : Char}
    (h : readTrailing lead cs = .ok (c, rest)) :
    ∃ more, cs = '\\' :: more ∧ skipEscape more = .ok rest := by
  unfold readTrailing at h
  split at h
  · contradiction
  · split at h
    · contradiction
    · rename_i more
      obtain ⟨⟨n, left⟩, hhex, hok⟩ := bind_eq_ok.mp h
      simp only at hok
      split at hok
      · contradiction
      · obtain ⟨-, rfl⟩ := Prod.mk.inj (Except.ok.inj hok)
        exact ⟨_, rfl, skipEscape_of_readHex hhex⟩
    · contradiction
  · contradiction

/-- What is read as one escape is passed over as one, or as two if it is a pair of surrogates. -/
theorem skipEscape_of_readEscape {cs rest : List Char} {c : Char}
    (h : readEscape cs = .ok (c, rest)) :
    skipEscape cs = .ok rest ∨
      ∃ more, skipEscape cs = .ok ('\\' :: more) ∧ skipEscape more = .ok rest := by
  unfold readEscape at h
  split at h
  · contradiction
  · obtain ⟨⟨n, left⟩, hhex, hescape⟩ := bind_eq_ok.mp h
    have hskip := skipEscape_of_readHex hhex
    simp only at hescape
    split at hescape
    · contradiction
    · split at hescape
      · obtain ⟨-, rfl⟩ := Prod.mk.inj (Except.ok.inj hescape)
        exact Or.inl hskip
      · obtain ⟨more, rfl, htrailing⟩ := skipEscape_of_readTrailing hescape
        exact Or.inr ⟨more, hskip, htrailing⟩
  · rename_i first more hfirst
    cases hsimple : simpleEscape? first with
    | none => simp [hsimple, failAfter] at h
    | some r =>
      simp only [hsimple, Except.ok.injEq, Prod.mk.injEq] at h
      obtain ⟨-, rfl⟩ := h
      refine Or.inl ?_
      unfold skipEscape
      split
      · contradiction
      · rename_i heq
        exact absurd (List.cons.inj heq).1 hfirst
      · rename_i heq
        obtain ⟨rfl, rfl⟩ := List.cons.inj heq
        simp [hsimple]

theorem skipString_escape {cs rest : List Char} (h : skipEscape cs = .ok rest) (steps : Nat) :
    skipString (steps + 1) ('\\' :: cs) = skipString steps rest := by
  simp only [skipString, h]
  rfl

/-- Each step of either takes a character at least. -/
theorem skipString_of_readChars {steps : Nat} {read cs chars rest : List Char}
    (h : readChars steps read cs = .ok (chars, rest)) :
    rest.length < cs.length ∧ ∀ n, cs.length ≤ n → skipString n cs = .ok rest := by
  induction steps generalizing read cs with
  | zero => contradiction
  | succ steps ih =>
    unfold readChars at h
    split at h
    · contradiction
    · obtain ⟨-, rfl⟩ := Prod.mk.inj (Except.ok.inj h)
      refine ⟨Nat.lt_succ_self _, fun n hn => ?_⟩
      cases n with
      | zero => contradiction
      | succ n => rfl
    · rename_i escape
      obtain ⟨⟨c, left⟩, hescape, hmore⟩ := bind_eq_ok.mp h
      obtain ⟨hlength, hstring⟩ := ih hmore
      rcases skipEscape_of_readEscape hescape with hskip | ⟨more, hlead, htrail⟩
      · have hleft := skipEscape_length hskip
        refine ⟨Nat.lt_succ_of_lt (Nat.lt_trans hlength hleft), fun n hn => ?_⟩
        cases n with
        | zero => contradiction
        | succ n =>
          rw [skipString_escape hskip]
          exact hstring n (by simp only [List.length_cons] at hn; omega)
      · have hmore := skipEscape_length hlead
        have hleft := skipEscape_length htrail
        simp only [List.length_cons] at hmore ⊢
        refine ⟨by omega, fun n hn => ?_⟩
        match n with
        | 0 | 1 => omega
        | n + 2 =>
          rw [skipString_escape hlead, skipString_escape htrail]
          exact hstring n (by omega)
    · rename_i c more hquote hbackslash
      split at h
      · contradiction
      · rename_i hprintable
        obtain ⟨hlength, hstring⟩ := ih h
        refine ⟨Nat.lt_succ_of_lt hlength, fun n hn => ?_⟩
        cases n with
        | zero => contradiction
        | succ n =>
          simp only [skipString, hprintable, ↓reduceIte]
          exact hstring n (Nat.le_of_succ_le_succ hn)

theorem skipString_of_readString {cs rest : List Char} {s : String}
    (h : readString cs = .ok (s, rest)) :
    rest.length < cs.length ∧ skipString (cs.length + 1) cs = .ok rest := by
  obtain ⟨⟨chars, left⟩, hchars, hok⟩ := bind_eq_ok.mp h
  obtain ⟨-, rfl⟩ := Prod.mk.inj (Except.ok.inj hok)
  obtain ⟨hlength, hstring⟩ := skipString_of_readChars hchars
  exact ⟨hlength, hstring _ (Nat.le_succ _)⟩

/-! ## Numbers -/

theorem dropDigits_of_not {cs : List Char} (h : startsWithDigit cs = false) :
    dropDigits cs = cs := by
  cases cs with
  | nil => rfl
  | cons c rest =>
    have hc : isDigit c = false := h
    simp [dropDigits, hc]

theorem dropDigits_suffix (cs : List Char) : dropDigits cs <:+ cs := List.dropWhile_suffix _

theorem dropDigits_length (cs : List Char) : (dropDigits cs).length ≤ cs.length :=
  (dropDigits_suffix cs).length_le

theorem dropDigits_length_lt {cs : List Char} (h : startsWithDigit cs = true) :
    (dropDigits cs).length < cs.length := by
  cases cs with
  | nil => contradiction
  | cons c rest =>
    have hc : isDigit c = true := h
    have hdrop : dropDigits (c :: rest) = dropDigits rest := by simp [dropDigits, hc]
    rw [hdrop]
    exact Nat.lt_succ_of_le (dropDigits_length rest)

/-- Digits that are taken are digits that can be dropped. -/
theorem dropDigits_takeDigits (significand count : Nat) (cs : List Char) :
    dropDigits (takeDigits significand count cs).2.2 = dropDigits cs := by
  induction cs generalizing significand count with
  | nil => rfl
  | cons c rest ih =>
    simp only [takeDigits]
    split
    · rename_i htake
      have hc : isDigit c = true := (Bool.and_eq_true_iff.mp htake).1
      rw [ih]
      simp [dropDigits, hc]
    · rfl

theorem takeDigits_of_not {cs : List Char} (h : startsWithDigit cs = false)
    (significand count : Nat) : takeDigits significand count cs = (significand, count, cs) := by
  cases cs with
  | nil => rfl
  | cons c rest =>
    have hc : isDigit c = false := h
    simp [takeDigits, hc]

theorem dropDigits_takeExponent (value : Nat) (cs : List Char) :
    dropDigits (takeExponent value cs).2 = dropDigits cs := by
  induction cs generalizing value with
  | nil => rfl
  | cons c rest ih =>
    simp only [takeExponent]
    split
    · rename_i htake
      have hc : isDigit c = true := (Bool.and_eq_true_iff.mp htake).1
      rw [ih]
      simp [dropDigits, hc]
    · rfl

theorem realOf_rest {negative : Bool} {significand : Nat} {exponent : Int} {cs rest : List Char}
    {n : Number} (h : realOf negative significand exponent cs = .ok (n, rest)) : rest = cs := by
  unfold realOf at h
  split at h
  · exact (Prod.mk.inj (Except.ok.inj h)).2.symm
  · contradiction

/-- The digits of an exponent, after its sign if it has one. -/
def afterSign (cs : List Char) : List Char :=
  match cs with
  | '+' :: rest | '-' :: rest => rest
  | _ => cs

theorem skipExponent_eq (cs : List Char) : skipExponent cs =
    if startsWithDigit (afterSign cs) then .ok (dropDigits (afterSign cs))
    else failAfter (afterSign cs) .invalidNumber := rfl

theorem skipExponent_of_readExponent {negative : Bool} {significand : Nat} {exponent : Int}
    {cs rest : List Char} {n : Number}
    (h : readExponent negative significand exponent cs = .ok (n, rest)) :
    skipExponent cs = .ok rest := by
  unfold readExponent at h
  split at h
  rename_i up digits hsign
  have hdigits : afterSign cs = digits := by
    unfold afterSign
    split at hsign
    · exact (Prod.mk.inj hsign).2
    · exact (Prod.mk.inj hsign).2
    · have hsame : cs = digits := (Prod.mk.inj hsign).2
      simpa using hsame
  rw [skipExponent_eq, hdigits]
  cases digits with
  | nil => contradiction
  | cons c more =>
    simp only at h
    split at h
    · rename_i hc
      have hstart : startsWithDigit (c :: more) = true := hc
      have hdrop := dropDigits_takeExponent 0 (c :: more)
      rw [if_pos hstart, ← hdrop]
      split at h
      · split at h
        · contradiction
        · rw [(Prod.mk.inj (Except.ok.inj h)).2]
      · rename_i hstop
        rw [Bool.not_eq_true] at hstop
        rw [dropDigits_of_not hstop, realOf_rest h]
    · contradiction

/-- Passes what may follow the digits of a fraction. -/
def skipScale (cs : List Char) : Except Fault (List Char) :=
  match cs with
  | 'e' :: rest | 'E' :: rest => skipExponent rest
  | rest => .ok rest

theorem skipScale_of_readScale {negative : Bool} {significand : Nat} {exponent : Int}
    {cs rest : List Char} {n : Number}
    (h : readScale negative significand exponent cs = .ok (n, rest)) :
    skipScale cs = .ok rest := by
  unfold readScale at h
  split at h
  · exact skipExponent_of_readExponent h
  · exact skipExponent_of_readExponent h
  · rw [realOf_rest h]
    simp [skipScale]

theorem skipTail_point (cs : List Char) : skipTail ('.' :: cs) =
    if startsWithDigit cs then skipScale (dropDigits cs) else failAfter cs .invalidNumber := rfl

theorem skipTail_of_readFraction {negative : Bool} {significand : Nat} {exponent : Int}
    {cs rest : List Char} {n : Number}
    (h : readFraction negative significand exponent cs = .ok (n, rest)) :
    skipTail ('.' :: cs) = .ok rest := by
  have hdrop := dropDigits_takeDigits significand 0 cs
  cases hstart : startsWithDigit cs with
  | false => simp [readFraction, takeDigits_of_not hstart, hstart, failAfter] at h
  | true =>
    rw [skipTail_point, if_pos hstart, ← hdrop]
    unfold readFraction at h
    simp only at h
    split at h
    · exact skipScale_of_readScale h
    · rename_i hstop
      rw [Bool.not_eq_true] at hstop
      split at h
      · contradiction
      · rw [dropDigits_of_not hstop]
        exact skipScale_of_readScale h

theorem skipTail_of_readTail {negative : Bool} {significand : Nat} {cs rest : List Char}
    {n : Number} (h : readTail negative significand cs = .ok (n, rest)) :
    skipTail cs = .ok rest := by
  unfold readTail at h
  split at h
  · exact skipTail_of_readFraction h
  · exact skipExponent_of_readExponent h
  · exact skipExponent_of_readExponent h
  · have hskip : skipTail cs = .ok cs := by simp [skipTail]
    rw [hskip]
    split at h
    · rw [(Prod.mk.inj (Except.ok.inj h)).2]
    · split at h
      · rw [realOf_rest h]
      · rw [(Prod.mk.inj (Except.ok.inj h)).2]

theorem skipTail_of_readLong {negative : Bool} {significand : Nat} {cs rest : List Char}
    {n : Number} (h : readLong negative significand cs = .ok (n, rest)) :
    skipTail (dropDigits cs) = .ok rest := by
  unfold readLong at h
  simp only at h
  split at h
  · rename_i hpoint
    rw [hpoint]
    exact skipTail_of_readFraction h
  · rename_i hpoint
    have hscale := skipScale_of_readScale h
    have htail : ∀ cs, (∀ more, cs ≠ '.' :: more) → skipTail cs = skipScale cs := by
      intro cs hcs
      unfold skipTail skipScale
      split <;> simp_all
    rw [htail _ hpoint, hscale]

theorem skipNumber_of_readNumber {negative : Bool} {cs rest : List Char} {n : Number}
    (h : readNumber negative cs = .ok (n, rest)) : skipNumber cs = .ok rest := by
  unfold readNumber at h
  split at h
  · contradiction
  · rename_i more
    unfold skipNumber
    simp only
    split at h
    · contradiction
    · rename_i hstop
      rw [if_neg hstop]
      exact skipTail_of_readTail h
  · rename_i c more hzero
    split at h
    · rename_i hc
      have hskip : skipNumber (c :: more) = skipTail (dropDigits (c :: more)) := by
        have hstart : startsWithDigit (c :: more) = true := hc
        unfold skipNumber
        split
        · rename_i heq
          exact absurd (List.cons.inj heq).1 hzero
        · rw [if_pos hstart]
      have hdrop := dropDigits_takeDigits 0 0 (c :: more)
      rw [hskip, ← hdrop]
      simp only at h
      split at h
      · exact skipTail_of_readLong h
      · rename_i hstop
        rw [Bool.not_eq_true] at hstop
        rw [dropDigits_of_not hstop]
        exact skipTail_of_readTail h
    · contradiction

theorem afterSign_suffix (cs : List Char) : afterSign cs <:+ cs := by
  unfold afterSign
  split
  · exact List.suffix_cons ..
  · exact List.suffix_cons ..
  · exact List.suffix_rfl

theorem skipExponent_suffix {cs rest : List Char} (h : skipExponent cs = .ok rest) :
    rest <:+ cs := by
  rw [skipExponent_eq] at h
  split at h
  · obtain rfl := Except.ok.inj h
    exact (dropDigits_suffix _).trans (afterSign_suffix cs)
  · contradiction

theorem skipScale_suffix {cs rest : List Char} (h : skipScale cs = .ok rest) : rest <:+ cs := by
  unfold skipScale at h
  split at h
  · exact (skipExponent_suffix h).trans (List.suffix_cons ..)
  · exact (skipExponent_suffix h).trans (List.suffix_cons ..)
  · obtain rfl := Except.ok.inj h
    exact List.suffix_rfl

theorem skipTail_suffix {cs rest : List Char} (h : skipTail cs = .ok rest) : rest <:+ cs := by
  unfold skipTail at h
  split at h
  · rename_i more
    have hpoint : skipTail ('.' :: more) = .ok rest := h
    rw [skipTail_point] at hpoint
    split at hpoint
    · exact ((skipScale_suffix hpoint).trans (dropDigits_suffix more)).trans (List.suffix_cons ..)
    · contradiction
  · exact (skipExponent_suffix h).trans (List.suffix_cons ..)
  · exact (skipExponent_suffix h).trans (List.suffix_cons ..)
  · obtain rfl := Except.ok.inj h
    exact List.suffix_rfl

theorem skipNumber_length {cs rest : List Char} (h : skipNumber cs = .ok rest) :
    rest.length < cs.length := by
  unfold skipNumber at h
  split at h
  · split at h
    · contradiction
    · exact Nat.lt_succ_of_le (skipTail_suffix h).length_le
  · split at h
    · rename_i hstart
      exact Nat.lt_of_le_of_lt (skipTail_suffix h).length_le (dropDigits_length_lt hstart)
    · contradiction

/-! ## Values -/

theorem readWord_length {word cs rest : List Char} (h : readWord word cs = .ok rest) :
    rest.length ≤ cs.length := by
  induction word generalizing cs with
  | nil =>
    obtain rfl := Except.ok.inj h
    exact Nat.le_refl _
  | cons w word ih =>
    cases cs with
    | nil => contradiction
    | cons c more =>
      simp only [readWord] at h
      split at h
      · exact Nat.le_succ_of_le (ih h)
      · contradiction

theorem readColon_length {cs rest : List Char} (h : readColon cs = .ok rest) :
    rest.length < cs.length := by
  unfold readColon at h
  have hspace := skipSpace_length cs
  simp only at h
  split at h
  · contradiction
  · rename_i hcolon
    obtain rfl := Except.ok.inj h
    rw [hcolon, List.length_cons] at hspace
    omega
  · contradiction

/-- A part of the text is passed over inside any open containers, if there are four steps for each
character and some to spare, and enough steps are left for the rest of the text. -/
structure Passes (spare : Nat)
    (skip : Nat → List Frame → List Char → Except Fault (List Char)) (cs rest : List Char) :
    Prop where
  shorter : rest.length < cs.length
  passed : ∀ steps stack, 4 * cs.length + spare ≤ steps →
    ∃ left, 4 * rest.length + 3 ≤ left ∧ skip steps stack cs = skipOn left stack rest

/-- One value. -/
abbrev PassesItem : List Char → List Char → Prop := Passes 0 skipItem

/-- What is left of a container, before or after an element. -/
abbrev PassesInside (frame : Frame) (afterElement : Bool) : List Char → List Char → Prop :=
  Passes 2 fun steps stack => skipInside steps frame stack afterElement

/-- An element with its key, and what is left of the container after it. -/
abbrev PassesEntry (frame : Frame) : List Char → List Char → Prop :=
  Passes 1 fun steps stack => skipEntry steps frame stack

theorem PassesItem.of_skipSpace {cs rest : List Char} (h : PassesItem (skipSpace cs) rest) :
    PassesItem cs rest := by
  have hspace := skipSpace_length cs
  refine ⟨Nat.lt_of_lt_of_le h.shorter hspace, fun steps stack hsteps => ?_⟩
  obtain ⟨left, hleft, hpass⟩ := h.passed steps stack (by omega)
  refine ⟨left, hleft, ?_⟩
  rw [← hpass]
  cases steps with
  | zero => rfl
  | succ steps => simp only [skipItem, skipSpace_skipSpace]

theorem PassesItem.scalar {cs rest : List Char} (hshorter : rest.length < cs.length)
    (h : ∀ steps stack, skipItem (steps + 1) stack cs = skipOn steps stack rest) :
    PassesItem cs rest := by
  refine ⟨hshorter, fun steps stack hsteps => ?_⟩
  cases steps with
  | zero => omega
  | succ steps => exact ⟨steps, by omega, h steps stack⟩

theorem PassesItem.container (frame : Frame) {cs more rest : List Char}
    (hcs : cs.length = more.length + 1)
    (h : ∀ steps stack, skipItem (steps + 1) stack cs = skipInside steps frame stack false more)
    (hinside : PassesInside frame false more rest) : PassesItem cs rest := by
  have hshorter := hinside.shorter
  refine ⟨by omega, fun steps stack hsteps => ?_⟩
  cases steps with
  | zero => omega
  | succ steps =>
    obtain ⟨left, hleft, hpass⟩ := hinside.passed steps stack (by omega)
    exact ⟨left, hleft, (h steps stack).trans hpass⟩

theorem PassesInside.close {frame : Frame} {afterElement : Bool} {cs rest : List Char} {c : Char}
    (hcs : skipSpace cs = c :: rest) (hc : frame.closes c = true) :
    PassesInside frame afterElement cs rest := by
  have hspace := skipSpace_length cs
  rw [hcs, List.length_cons] at hspace
  refine ⟨by omega, fun steps stack hsteps => ?_⟩
  cases steps with
  | zero => omega
  | succ steps => exact ⟨steps, by omega, by simp [skipInside, hcs, hc]⟩

theorem PassesEntry.of_skipSpace {frame : Frame} {cs rest : List Char}
    (h : PassesEntry frame (skipSpace cs) rest) : PassesEntry frame cs rest := by
  have hspace := skipSpace_length cs
  refine ⟨Nat.lt_of_lt_of_le h.shorter hspace, fun steps stack hsteps => ?_⟩
  obtain ⟨left, hleft, hpass⟩ := h.passed steps stack (by omega)
  refine ⟨left, hleft, ?_⟩
  rw [← hpass]
  cases steps with
  | zero => rfl
  | succ steps =>
    cases frame with
    | list =>
      cases steps with
      | zero => rfl
      | succ steps => simp only [skipEntry, skipItem, skipSpace_skipSpace]
    | object => simp only [skipEntry, skipSpace_skipSpace]

theorem PassesInside.entry {frame : Frame} {first : Bool} {cs start rest : List Char}
    (hstart : NextEntry frame first cs start) (hentry : PassesEntry frame start rest) :
    PassesInside frame (!first) cs rest := by
  have hspace := skipSpace_length cs
  cases hstart with
  | first hcs hopen =>
    have hshorter := hentry.shorter
    rw [hcs] at hspace
    refine ⟨by omega, fun steps stack hsteps => ?_⟩
    cases steps with
    | zero => omega
    | succ steps =>
      obtain ⟨left, hleft, hpass⟩ := hentry.passed steps stack (by omega)
      exact ⟨left, hleft, by simp [skipInside, hcs, hopen, hpass]⟩
  | next hcs =>
    have hentry := hentry.of_skipSpace
    have hshorter := hentry.shorter
    rw [hcs, List.length_cons] at hspace
    refine ⟨by omega, fun steps stack hsteps => ?_⟩
    cases steps with
    | zero => omega
    | succ steps =>
      obtain ⟨left, hleft, hpass⟩ := hentry.passed steps stack (by omega)
      exact ⟨left, hleft, by simp [skipInside, hcs, comma_not_closes, hpass]⟩

/-- An entry is a value, after its key if there is one, and what follows it. -/
theorem PassesEntry.value {frame : Frame} {cs item mid rest : List Char}
    (hitem : item.length ≤ cs.length)
    (h : ∀ steps stack, skipEntry (steps + 1) frame stack cs = skipItem steps (frame :: stack) item)
    (hvalue : PassesItem item mid) (hinside : PassesInside frame true mid rest) :
    PassesEntry frame cs rest := by
  have hmid := hvalue.shorter
  have hrest := hinside.shorter
  refine ⟨by omega, fun steps stack hsteps => ?_⟩
  cases steps with
  | zero => omega
  | succ steps =>
    obtain ⟨left, hleft, hpass⟩ := hvalue.passed steps (frame :: stack) (by omega)
    cases left with
    | zero => omega
    | succ left =>
      obtain ⟨last, hlast, hpass'⟩ := hinside.passed left stack (by omega)
      refine ⟨last, hlast, ?_⟩
      simp only [h, hpass, skipOn, hpass']

/-- The elements of a list after its bracket. -/
theorem passes_of_readElements {α : Type} {element : Reader α}
    (helement : ∀ cs a rest, element cs = .ok (a, rest) → PassesItem cs rest) {first : Bool}
    {n : Nat} {cs rest : List Char} {items : List α}
    (h : readElements element first n cs = .ok (items, rest)) :
    PassesInside .list (!first) cs rest := by
  induction n generalizing first cs items with
  | zero => contradiction
  | succ n ih =>
    rcases readElements_cases h with ⟨hcs, -⟩ | ⟨start, a, mid, more, hstart, ha, hmore, -⟩
    · exact .close hcs rfl
    · have hentry : PassesEntry .list start rest :=
        .value (Nat.le_refl _) (fun _ _ => rfl) (helement _ a mid ha) (ih hmore)
      exact .entry hstart hentry

/-- A member, from its quote on, and what follows it. -/
theorem PassesEntry.member {afterQuote afterKey item mid rest : List Char} {key : String}
    (hkey : readString afterQuote = .ok (key, afterKey)) (hcolon : readColon afterKey = .ok item)
    (hvalue : PassesItem item mid) (hinside : PassesInside .object true mid rest) :
    PassesEntry .object ('"' :: afterQuote) rest := by
  obtain ⟨hafterKey, hskip⟩ := skipString_of_readString hkey
  have hitem := readColon_length hcolon
  have hquote : skipSpace ('"' :: afterQuote) = '"' :: afterQuote := rfl
  refine .value (by simp only [List.length_cons]; omega) (fun steps stack => ?_) hvalue hinside
  simp only [skipEntry, hquote, hskip, hcolon, bind, Except.bind]

/-- The members of an object after its brace. -/
theorem passes_of_readMembers {α : Type} {value : String → Reader α}
    (hvalue : ∀ key cs a rest, value key cs = .ok (a, rest) →
      ∃ item, readColon cs = .ok item ∧ PassesItem item rest) {first : Bool} {n : Nat}
    {cs rest : List Char} {members : List (String × α)}
    (h : readMembers value first n cs = .ok (members, rest)) :
    PassesInside .object (!first) cs rest := by
  induction n generalizing first cs members with
  | zero => contradiction
  | succ n ih =>
    rcases readMembers_cases h with
      ⟨hcs, -⟩ | ⟨afterQuote, key, afterKey, a, mid, more, hstart, hkey, ha, hmore, -⟩
    · exact .close hcs rfl
    · obtain ⟨item, hcolon, hitem⟩ := hvalue key afterKey a mid ha
      exact .entry hstart (.member hkey hcolon hitem (ih hmore))

theorem passesItem_of_readWord {word more rest : List Char} {c : Char}
    (h : readWord word more = .ok rest)
    (hskip : ∀ steps stack, skipItem (steps + 1) stack (c :: more) =
      (readWord word more >>= fun rest => skipOn steps stack rest)) :
    PassesItem (c :: more) rest := by
  refine .scalar (Nat.lt_succ_of_le (readWord_length h)) fun steps stack => ?_
  rw [hskip, h]
  rfl

/-- By the first character of the value; the elements of a container are one level deeper. -/
theorem passesItem_of_readValue {depth : Nat} {cs rest : List Char} {v : Json}
    (h : readValue depth cs = .ok (v, rest)) : PassesItem cs rest := by
  induction depth using Nat.strongRecOn generalizing cs v rest with
  | ind depth ih =>
    refine .of_skipSpace ?_
    have hstart := skipSpace_skipSpace cs
    unfold readValue at h
    simp only at h
    split at h
    case h_1 => contradiction
    case h_2 hcs | h_3 hcs | h_4 hcs =>
      obtain ⟨left, hword, hok⟩ := bind_eq_ok.mp h
      obtain ⟨-, rfl⟩ := Prod.mk.inj (Except.ok.inj hok)
      rw [hcs] at hstart ⊢
      exact passesItem_of_readWord hword fun steps stack => by simp only [skipItem, hstart]
    case h_5 hcs =>
      obtain ⟨⟨s, left⟩, hstring, hok⟩ := bind_eq_ok.mp h
      simp only [Except.ok.injEq, Prod.mk.injEq] at hok
      obtain ⟨-, rfl⟩ := hok
      obtain ⟨hshorter, hskip⟩ := skipString_of_readString hstring
      rw [hcs] at hstart ⊢
      refine .scalar (Nat.lt_succ_of_lt hshorter) fun steps stack => ?_
      simp only [skipItem, hstart, hskip, bind, Except.bind]
    case h_6 hcs =>
      cases depth with
      | zero => contradiction
      | succ inner =>
        obtain ⟨⟨items, left⟩, hitems, hok⟩ := bind_eq_ok.mp h
        simp only [Except.ok.injEq, Prod.mk.injEq] at hok
        obtain ⟨-, rfl⟩ := hok
        have hinside := passes_of_readElements
          (fun _ _ _ hv => ih inner (Nat.lt_succ_self inner) hv) hitems
        rw [hcs] at hstart ⊢
        refine .container .list rfl (fun steps stack => ?_) hinside
        simp only [skipItem, hstart]
    case h_7 hcs =>
      cases depth with
      | zero => contradiction
      | succ inner =>
        obtain ⟨⟨members, left⟩, hmembers, hok⟩ := bind_eq_ok.mp h
        simp only [Except.ok.injEq, Prod.mk.injEq] at hok
        obtain ⟨-, rfl⟩ := hok
        have hvalue : ∀ (key : String) cs v rest,
            (readColon cs >>= fun cs => readValue inner cs) = .ok (v, rest) →
              ∃ item, readColon cs = .ok item ∧ PassesItem item rest := by
          intro key cs v rest hv
          obtain ⟨item, hcolon, hitem⟩ := bind_eq_ok.mp hv
          exact ⟨item, hcolon, ih inner (Nat.lt_succ_self inner) hitem⟩
        have hinside := passes_of_readMembers hvalue hmembers
        rw [hcs] at hstart ⊢
        refine .container .object rfl (fun steps stack => ?_) hinside
        simp only [skipItem, hstart]
    case h_8 hcs =>
      obtain ⟨⟨n, left⟩, hnumber, hok⟩ := bind_eq_ok.mp h
      simp only [Except.ok.injEq, Prod.mk.injEq] at hok
      obtain ⟨-, rfl⟩ := hok
      have hskip := skipNumber_of_readNumber hnumber
      rw [hcs] at hstart ⊢
      refine .scalar (Nat.lt_succ_of_lt (skipNumber_length hskip)) fun steps stack => ?_
      simp only [skipItem, hstart, hskip, bind, Except.bind]
    case h_9 hcs =>
      split at h
      · rename_i hdigit
        obtain ⟨⟨n, left⟩, hnumber, hok⟩ := bind_eq_ok.mp h
        simp only [Except.ok.injEq, Prod.mk.injEq] at hok
        obtain ⟨-, rfl⟩ := hok
        have hskip := skipNumber_of_readNumber hnumber
        rw [hcs] at hstart hskip ⊢
        refine .scalar (skipNumber_length hskip) fun steps stack => ?_
        simp [skipItem, hstart, hdigit, hskip, bind, Except.bind]
      · contradiction

theorem PassesItem.skipValue {cs rest : List Char} (h : PassesItem cs rest) :
    skipValue cs = .ok ((), rest) := by
  obtain ⟨left, hleft, hpass⟩ := h.passed (4 * cs.length + 4) [] (by omega)
  cases left with
  | zero => omega
  | succ left =>
    simp only [Json.skipValue, hpass, skipOn]
    rfl

/-- What can be read as a value can be passed over, and the same text is left. -/
theorem skipValue_of_readValue {depth : Nat} {cs rest : List Char} {v : Json}
    (h : readValue depth cs = .ok (v, rest)) : skipValue cs = .ok ((), rest) :=
  (passesItem_of_readValue h).skipValue

end CloudGate.Json
