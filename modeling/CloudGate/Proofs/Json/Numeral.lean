import CloudGate.Proofs.Json.Skip
import CloudGate.Proofs.Json.Number
import CloudGate.Proofs.Json.Written

/-!
Numbers read from their numerals, with other text behind them.

* `readNumber_append`: a numeral reads the same whatever stands behind it, as long as it ends there.
* `readValue_int`: the numeral of an integer of 64 bits reads as this integer.
* `readValue_number`: a number that is read from a numeral is read in the middle of a text as well.
-/

namespace CloudGate.Json

open Decimal (IsNumeral isNumeralChar)

/-! ## The end of a numeral -/

/-- The characters that would go on with a numeral. -/
def continuesNumeral (c : Char) : Bool := isDigit c || c == '.' || c == 'e' || c == 'E'

/-- A text that does not go on with a numeral in front of it. -/
def Stops : List Char → Prop
  | [] => True
  | c :: _ => continuesNumeral c = false

section Append

variable {behind : List Char}

theorem Stops.not_digit (h : Stops behind) : startsWithDigit behind = false := by
  cases behind with
  | nil => rfl
  | cons c rest =>
    have hc : continuesNumeral c = false := h
    simp only [continuesNumeral, Bool.or_eq_false_iff] at hc
    exact hc.1.1.1

theorem Stops.ne_cons (h : Stops behind) {c : Char} (hc : continuesNumeral c = true)
    (rest : List Char) : behind ≠ c :: rest := by
  rintro rfl
  have hstop : continuesNumeral c = false := h
  rw [hc] at hstop
  contradiction

theorem startsWithDigit_append (h : Stops behind) (cs : List Char) :
    startsWithDigit (cs ++ behind) = startsWithDigit cs := by
  cases cs with
  | nil => exact h.not_digit
  | cons c rest => rfl

theorem takeDigits_append (h : Stops behind) (significand count : Nat) (cs : List Char) :
    takeDigits significand count (cs ++ behind) =
      ((takeDigits significand count cs).1, (takeDigits significand count cs).2.1,
        (takeDigits significand count cs).2.2 ++ behind) := by
  induction cs generalizing significand count with
  | nil => exact takeDigits_of_not h.not_digit ..
  | cons c rest ih =>
    simp only [List.cons_append, takeDigits]
    split
    · exact ih ..
    · rfl

theorem takeExponent_append (h : Stops behind) (value : Nat) (cs : List Char) :
    takeExponent value (cs ++ behind) =
      ((takeExponent value cs).1, (takeExponent value cs).2 ++ behind) := by
  induction cs generalizing value with
  | nil =>
    cases behind with
    | nil => rfl
    | cons c rest =>
      have hc : isDigit c = false := h.not_digit
      simp [takeExponent, hc]
  | cons c rest ih =>
    simp only [List.cons_append, takeExponent]
    split
    · exact ih ..
    · rfl

theorem dropDigits_append (h : Stops behind) (cs : List Char) :
    dropDigits (cs ++ behind) = dropDigits cs ++ behind := by
  induction cs with
  | nil => exact dropDigits_of_not h.not_digit
  | cons c rest ih =>
    unfold dropDigits at ih ⊢
    rw [List.cons_append, List.dropWhile_cons, List.dropWhile_cons, ih]
    split
    · rfl
    · rfl

variable {negative : Bool} {significand : Nat} {exponent : Int} {cs left : List Char} {n : Number}

theorem realOf_append (h : realOf negative significand exponent cs = .ok (n, left))
    (behind : List Char) :
    realOf negative significand exponent (cs ++ behind) = .ok (n, left ++ behind) := by
  unfold realOf at h ⊢
  split at h
  · obtain ⟨rfl, rfl⟩ := Prod.mk.inj (Except.ok.inj h)
    rfl
  · contradiction

/-- The exponent of a number after its sign. -/
def readPower (up negative : Bool) (significand : Nat) (exponent : Int) (cs : List Char) :
    Except Fault (Number × List Char) :=
  match cs with
  | [] => failAt [] .endOfValue
  | c :: _ =>
    if isDigit c then
      let (value, rest) := takeExponent 0 cs
      if startsWithDigit rest then
        if significand ≠ 0 ∧ up then failAfter rest .numberOutOfRange
        else .ok (.real (Decimal.Binary64.zero negative), dropDigits rest)
      else realOf negative significand (if up then exponent + value else exponent - value) rest
    else failAfter cs .invalidNumber

theorem readExponent_unsigned {c : Char} (hplus : c ≠ '+') (hminus : c ≠ '-') (cs : List Char) :
    readExponent negative significand exponent (c :: cs) =
      readPower true negative significand exponent (c :: cs) := by
  unfold readExponent
  split
  rename_i up digits hsign
  split at hsign
  · rename_i heq
    exact absurd (List.cons.inj heq).1 hplus
  · rename_i heq
    exact absurd (List.cons.inj heq).1 hminus
  · obtain ⟨rfl, rfl⟩ := Prod.mk.inj hsign
    rfl

theorem readPower_append (up : Bool) (hstops : Stops behind)
    (h : readPower up negative significand exponent cs = .ok (n, left)) :
    readPower up negative significand exponent (cs ++ behind) = .ok (n, left ++ behind) := by
  unfold readPower at h
  split at h
  · contradiction
  · rename_i c more
    split at h
    · rename_i hdigit
      have htake := takeExponent_append hstops 0 (c :: more)
      have hdigits := startsWithDigit_append hstops (takeExponent 0 (c :: more)).2
      rw [List.cons_append] at htake ⊢
      simp only [readPower, hdigit, ↓reduceIte, htake, hdigits]
      simp only at h
      split at h
      · rename_i hmore
        rw [if_pos hmore]
        split at h
        · contradiction
        · rename_i hzero
          obtain ⟨rfl, rfl⟩ := Prod.mk.inj (Except.ok.inj h)
          rw [if_neg hzero, dropDigits_append hstops]
      · rename_i hmore
        rw [if_neg hmore]
        exact realOf_append h behind
    · contradiction

theorem readExponent_append (hstops : Stops behind)
    (h : readExponent negative significand exponent cs = .ok (n, left)) :
    readExponent negative significand exponent (cs ++ behind) = .ok (n, left ++ behind) := by
  cases cs with
  | nil => contradiction
  | cons c more =>
    by_cases hplus : c = '+'
    · subst hplus
      exact readPower_append true hstops h
    · by_cases hminus : c = '-'
      · subst hminus
        exact readPower_append false hstops h
      · rw [readExponent_unsigned hplus hminus] at h
        rw [List.cons_append, readExponent_unsigned hplus hminus]
        exact readPower_append true hstops h

/-- What goes on with no numeral by itself does not do so with a stop behind it. -/
theorem Stops.append_ne_cons (hstops : Stops behind) {c : Char} (hc : continuesNumeral c = true)
    (hcs : ∀ rest, cs ≠ c :: rest) (rest : List Char) : cs ++ behind ≠ c :: rest := by
  cases cs with
  | nil => exact hstops.ne_cons hc rest
  | cons d more =>
    intro heq
    obtain ⟨rfl, -⟩ := List.cons.inj heq
    exact hcs more rfl

theorem readScale_append (hstops : Stops behind)
    (h : readScale negative significand exponent cs = .ok (n, left)) :
    readScale negative significand exponent (cs ++ behind) = .ok (n, left ++ behind) := by
  unfold readScale at h
  split at h
  · exact readExponent_append hstops h
  · exact readExponent_append hstops h
  · rename_i hlower hupper
    unfold readScale
    split
    · rename_i rest heq
      exact absurd heq (hstops.append_ne_cons (by decide) hlower rest)
    · rename_i rest heq
      exact absurd heq (hstops.append_ne_cons (by decide) hupper rest)
    · exact realOf_append h behind

theorem readFraction_append (hstops : Stops behind)
    (h : readFraction negative significand exponent cs = .ok (n, left)) :
    readFraction negative significand exponent (cs ++ behind) = .ok (n, left ++ behind) := by
  unfold readFraction at h ⊢
  simp only [takeDigits_append hstops, startsWithDigit_append hstops,
    dropDigits_append hstops] at h ⊢
  split at h
  · rename_i hdigit
    rw [if_pos hdigit]
    exact readScale_append hstops h
  · rename_i hdigit
    rw [if_neg hdigit]
    split at h
    · contradiction
    · rename_i hcount
      rw [if_neg hcount]
      exact readScale_append hstops h

theorem readTail_append (hstops : Stops behind)
    (h : readTail negative significand cs = .ok (n, left)) :
    readTail negative significand (cs ++ behind) = .ok (n, left ++ behind) := by
  unfold readTail at h
  split at h
  · exact readFraction_append hstops h
  · exact readExponent_append hstops h
  · exact readExponent_append hstops h
  · rename_i hpoint hlower hupper
    unfold readTail
    split
    · rename_i rest heq
      exact absurd heq (hstops.append_ne_cons (by decide) hpoint rest)
    · rename_i rest heq
      exact absurd heq (hstops.append_ne_cons (by decide) hlower rest)
    · rename_i rest heq
      exact absurd heq (hstops.append_ne_cons (by decide) hupper rest)
    · split at h
      · rename_i hsign
        rw [if_pos hsign]
        obtain ⟨rfl, rfl⟩ := Prod.mk.inj (Except.ok.inj h)
        rfl
      · rename_i hsign
        rw [if_neg hsign]
        split at h
        · rename_i hreal
          rw [if_pos hreal]
          exact realOf_append h behind
        · rename_i hreal
          rw [if_neg hreal]
          obtain ⟨rfl, rfl⟩ := Prod.mk.inj (Except.ok.inj h)
          rfl

theorem readLong_append (hstops : Stops behind)
    (h : readLong negative significand cs = .ok (n, left)) :
    readLong negative significand (cs ++ behind) = .ok (n, left ++ behind) := by
  have hextra : (cs ++ behind).length - (dropDigits cs ++ behind).length =
      cs.length - (dropDigits cs).length := by
    rw [List.length_append, List.length_append, Nat.add_sub_add_right]
  unfold readLong at h ⊢
  simp only [dropDigits_append hstops, hextra] at h ⊢
  split at h
  · rename_i more hpoint
    rw [hpoint] at h ⊢
    exact readFraction_append hstops h
  · rename_i hpoint
    split
    · rename_i rest heq
      exact absurd heq (hstops.append_ne_cons (by decide) hpoint rest)
    · exact readScale_append hstops h

/-- A numeral reads the same whatever stands behind it, as long as it ends there. -/
theorem readNumber_append (hstops : Stops behind) (h : readNumber negative cs = .ok (n, left)) :
    readNumber negative (cs ++ behind) = .ok (n, left ++ behind) := by
  unfold readNumber at h
  split at h
  · contradiction
  · rename_i more
    split at h
    · contradiction
    · rename_i hdigit
      show (if startsWithDigit (more ++ behind) = true then _ else _) = _
      rw [startsWithDigit_append hstops, if_neg hdigit]
      exact readTail_append hstops h
  · rename_i c more hzero
    have hnumber : readNumber negative (c :: (more ++ behind)) =
        if isDigit c then
          if startsWithDigit (takeDigits 0 0 (c :: (more ++ behind))).2.2 then
            readLong negative (takeDigits 0 0 (c :: (more ++ behind))).1
              (takeDigits 0 0 (c :: (more ++ behind))).2.2
          else readTail negative (takeDigits 0 0 (c :: (more ++ behind))).1
              (takeDigits 0 0 (c :: (more ++ behind))).2.2
        else failAfter (c :: (more ++ behind)) .invalidNumber := by
      rw [readNumber]
      exact hzero
    split at h
    · rename_i hdigit
      rw [List.cons_append, hnumber, if_pos hdigit, ← List.cons_append,
        takeDigits_append hstops, startsWithDigit_append hstops]
      simp only at h
      split at h
      · rename_i hmore
        rw [if_pos hmore]
        exact readLong_append hstops h
      · rename_i hmore
        rw [if_neg hmore]
        exact readTail_append hstops h
    · contradiction

end Append

/-! ## Integers -/

/-- The value of digits behind a number. -/
def valueFrom (n : Nat) (digits : List Char) : Nat :=
  digits.foldl (fun n c => n * 10 + digitValue c) n

theorem le_valueFrom (digits : List Char) (n : Nat) : n ≤ valueFrom n digits := by
  induction digits generalizing n with
  | nil => exact Nat.le_refl n
  | cons c rest ih => exact Nat.le_trans (by omega) (ih (n * 10 + digitValue c))

/-- Digits are taken to their end if their value fits. -/
theorem takeDigits_digits {digits behind : List Char} (hdigits : ∀ c ∈ digits, isDigit c = true)
    (hbehind : startsWithDigit behind = false) (significand count : Nat)
    (hfits : (valueFrom significand digits : Int) ≤ maxUInt64) :
    takeDigits significand count (digits ++ behind) =
      (valueFrom significand digits, count + digits.length, behind) := by
  induction digits generalizing significand count with
  | nil => exact takeDigits_of_not hbehind ..
  | cons c rest ih =>
    obtain ⟨hc, hrest⟩ := List.forall_mem_cons.mp hdigits
    have hnext : ((significand * 10 + digitValue c : Nat) : Int) ≤ maxUInt64 :=
      Int.le_trans (Int.ofNat_le.mpr (le_valueFrom rest _)) hfits
    have hcount : count + 1 + rest.length = count + (rest.length + 1) := by omega
    simp only [List.cons_append, takeDigits, hc, hnext, decide_true, Bool.and_self, ↓reduceIte,
      List.length_cons]
    rw [ih hrest _ (count + 1) hfits, hcount]
    rfl

/-- The whole digits of a number: a zero, or digits that do not start with one. -/
inductive IsWhole : List Char → Prop
  | zero : IsWhole ['0']
  | digits {c : Char} {rest : List Char} (hdigits : ∀ d ∈ c :: rest, isDigit d = true)
    (hzero : c ≠ '0') : IsWhole (c :: rest)

theorem toDigits_head_ne_zero {n : Nat} (hn : 0 < n) {c : Char} {rest : List Char}
    (h : Nat.toDigits 10 n = c :: rest) : c ≠ '0' := by
  induction n using Nat.strongRecOn generalizing rest with
  | ind n ih =>
    by_cases hlt : n < 10
    · rw [Nat.toDigits_of_lt_base hlt] at h
      obtain ⟨rfl, -⟩ := List.cons.inj h
      rw [Ne, Nat.digitChar_eq_zero]
      omega
    · rw [Nat.toDigits_of_base_le (by decide) (by omega)] at h
      cases hfront : Nat.toDigits 10 (n / 10) with
      | nil => exact absurd hfront Nat.toDigits_ne_nil
      | cons d more =>
        rw [hfront, List.cons_append] at h
        obtain ⟨rfl, -⟩ := List.cons.inj h
        exact ih (n / 10) (by omega) (by omega) hfront

theorem toDigits_whole (n : Nat) : IsWhole (Nat.toDigits 10 n) := by
  rcases Nat.eq_zero_or_pos n with rfl | hn
  · exact .zero
  · cases hcs : Nat.toDigits 10 n with
    | nil => exact absurd hcs Nat.toDigits_ne_nil
    | cons c rest =>
      exact .digits (fun d hd => isDigit_of_mem_digits (hcs ▸ hd)) (toDigits_head_ne_zero hn hcs)

/-- The whole digits are read if their value fits. -/
theorem readNumber_whole {whole behind : List Char} (hwhole : IsWhole whole)
    (hbehind : startsWithDigit behind = false) (hfits : (valueOf whole : Int) ≤ maxUInt64)
    (negative : Bool) :
    readNumber negative (whole ++ behind) = readTail negative (valueOf whole) behind := by
  cases hwhole with
  | zero =>
    show (if startsWithDigit behind = true then _ else _) = _
    rw [hbehind]
    rfl
  | @digits c rest hdigits hzero =>
    have hc : isDigit c = true := hdigits c (List.mem_cons_self ..)
    have htake := takeDigits_digits hdigits hbehind 0 0 hfits
    rw [List.cons_append] at htake ⊢
    rw [readNumber, if_pos hc]
    · simp only [htake, hbehind]
      rfl
    · exact hzero

theorem readTail_of_stops {negative : Bool} {significand : Nat} {cs : List Char}
    (h : Stops cs) : readTail negative significand cs =
      if !negative then .ok (.int significand, cs)
      else if significand = 0 ∨ -(significand : Int) < minInt64 then realOf true significand 0 cs
      else .ok (.int (-significand), cs) := by
  unfold readTail
  split
  · exact absurd rfl (h.ne_cons (by decide) _)
  · exact absurd rfl (h.ne_cons (by decide) _)
  · exact absurd rfl (h.ne_cons (by decide) _)
  · rfl

/-- The digits of a number that fits are read as whole. -/
theorem readNumber_digits {n : Nat} (hfits : (n : Int) ≤ maxUInt64) {behind : List Char}
    (hbehind : startsWithDigit behind = false) (negative : Bool) :
    readNumber negative (Nat.toDigits 10 n ++ behind) = readTail negative n behind := by
  have hvalue : valueOf (Nat.toDigits 10 n) = n := valueOf_toDigits n
  rw [readNumber_whole (toDigits_whole n) hbehind (by rw [hvalue]; exact hfits), hvalue]

/-- Where a number starts, its digits are read. -/
theorem readValue_digit {c : Char} (hc : isDigit c = true) (depth : Nat) (cs : List Char) :
    readValue depth (c :: cs) =
      readNumber false (c :: cs) >>= fun p => .ok (.num p.1, p.2) := by
  have hdigit : c ∈ ['0', '1', '2', '3', '4', '5', '6', '7', '8', '9'] :=
    Text.forall_ascii
      (P := fun c => isDigit c = true → c ∈ ['0', '1', '2', '3', '4', '5', '6', '7', '8', '9'])
      (by decide) (isAscii_of_isDigit hc) hc
  simp only [List.mem_cons, List.not_mem_nil, or_false] at hdigit
  unfold readValue
  rcases hdigit with rfl | rfl | rfl | rfl | rfl | rfl | rfl | rfl | rfl | rfl <;> rfl

theorem readValue_minus (depth : Nat) (cs : List Char) :
    readValue depth ('-' :: cs) = readNumber true cs >>= fun p => .ok (.num p.1, p.2) := by
  unfold readValue
  rfl

/-- An integer of 64 bits, signed or unsigned. -/
theorem readValue_int {n : Int} (h : (Number.int n).Fits) (depth : Nat) {behind : List Char}
    (hstops : Stops behind) :
    readValue depth ((toString n).toList ++ behind) = .ok (.num (.int n), behind) := by
  obtain ⟨hmin, hmax⟩ := h
  rw [toList_numeral]
  split
  · rename_i hpos
    have hnat : (n.toNat : Int) = n := Int.toNat_of_nonneg hpos
    have hread := readNumber_digits (by rw [hnat]; exact hmax) hstops.not_digit false
    rw [readTail_of_stops hstops, hnat] at hread
    cases hcs : Nat.toDigits 10 n.toNat with
    | nil => exact absurd hcs Nat.toDigits_ne_nil
    | cons c rest =>
      have hc : isDigit c = true := isDigit_of_mem_digits (hcs ▸ List.mem_cons_self ..)
      rw [hcs] at hread
      rw [List.cons_append] at hread ⊢
      rw [readValue_digit hc, hread]
      rfl
  · rename_i hneg
    have hnat : ((-n).toNat : Int) = -n := Int.toNat_of_nonneg (by omega)
    have hfits : ((-n).toNat : Int) ≤ maxUInt64 := by
      unfold minInt64 at hmin
      unfold maxUInt64
      omega
    have hread := readNumber_digits hfits hstops.not_digit true
    have hzero : ¬ ((-n).toNat = 0 ∨ -((-n).toNat : Int) < minInt64) := by omega
    rw [readTail_of_stops hstops, if_neg (by decide), if_neg hzero, hnat, Int.neg_neg] at hread
    rw [List.cons_append, readValue_minus, hread]
    rfl

/-! ## Numbers with a fraction or an exponent -/

/-- A number that is read leaves an end of the text. -/
theorem readNumber_suffix {negative : Bool} {cs rest : List Char} {n : Number}
    (h : readNumber negative cs = .ok (n, rest)) : rest <:+ cs := by
  have hskip := skipNumber_of_readNumber h
  unfold skipNumber at hskip
  split at hskip
  · split at hskip
    · contradiction
    · exact (skipTail_suffix hskip).trans (List.suffix_cons ..)
  · split at hskip
    · exact (skipTail_suffix hskip).trans (dropDigits_suffix _)
    · contradiction

theorem readValue_nil (depth : Nat) {p : Json × List Char} : readValue depth [] ≠ .ok p := by
  have hnil : readValue depth [] = failAfter [] .endOfValue := by
    unfold readValue
    rfl
  rw [hnil]
  intro h
  contradiction

/-- A numeral that is read from a text of its own is read in front of other text as well. -/
theorem readValue_append {cs left behind : List Char} {d : Nat} {v : Json} (hcs : IsNumeral cs)
    (h : readValue d cs = .ok (v, left)) (hstops : Stops behind) (depth : Nat) :
    readValue depth (cs ++ behind) = .ok (v, left ++ behind) ∧ left <:+ cs := by
  cases cs with
  | nil => exact absurd h (readValue_nil d)
  | cons c rest =>
    have hc : isNumeralChar c = true := hcs c (List.mem_cons_self ..)
    rw [isNumeralChar, Bool.or_eq_true] at hc
    rcases hc with hdigit | hsign
    · have hdigit : isDigit c = true := hdigit
      rw [readValue_digit hdigit] at h
      obtain ⟨⟨n, left⟩, hnumber, hok⟩ := bind_eq_ok.mp h
      obtain ⟨rfl, rfl⟩ := Prod.mk.inj (Except.ok.inj hok)
      have hmore := readNumber_append hstops hnumber
      rw [List.cons_append] at hmore ⊢
      rw [readValue_digit hdigit, hmore]
      exact ⟨rfl, readNumber_suffix hnumber⟩
    · have hsign := List.contains_iff_mem.mp hsign
      simp only [List.mem_cons, List.not_mem_nil, or_false] at hsign
      rcases hsign with rfl | rfl | rfl | rfl
      · rw [readValue_minus] at h
        obtain ⟨⟨n, left⟩, hnumber, hok⟩ := bind_eq_ok.mp h
        obtain ⟨rfl, rfl⟩ := Prod.mk.inj (Except.ok.inj hok)
        have hmore := readNumber_append hstops hnumber
        rw [List.cons_append, readValue_minus, hmore]
        exact ⟨rfl, (readNumber_suffix hnumber).trans (List.suffix_cons ..)⟩
      -- no number starts with a plus sign, a point or an exponent letter
      · unfold readValue at h
        contradiction
      · unfold readValue at h
        contradiction
      · unfold readValue at h
        contradiction

theorem isSpace_of_numeral {c : Char} (h : isNumeralChar c = true) : isSpace c = false := by
  cases hspace : isSpace c with
  | false => rfl
  | true =>
    simp only [isSpace, Bool.or_eq_true, beq_iff_eq] at hspace
    rcases hspace with ((rfl | rfl) | rfl) | rfl <;> contradiction

theorem skipSpace_of_not {c : Char} (h : isSpace c = false) (rest : List Char) :
    skipSpace (c :: rest) = c :: rest := by
  simp [skipSpace, h]

/-- A number that is read from a numeral of its own is read in the middle of a text as well. -/
theorem readValue_number {n m : Number} (h : parse n.render = .ok (.num m)) (depth : Nat)
    {behind : List Char} (hstops : Stops behind) :
    readValue depth (n.render.toList ++ behind) = .ok (.num m, behind) := by
  obtain ⟨⟨v, left⟩, hread, hend⟩ := bind_eq_ok.mp h
  obtain ⟨happend, hsuffix⟩ := readValue_append (number_numeral n) hread hstops depth
  simp only at hend
  split at hend
  · rename_i hblank
    obtain rfl := Except.ok.inj hend
    cases left with
    | nil => exact happend
    | cons c more =>
      have hc := number_numeral n c (hsuffix.subset (List.mem_cons_self ..))
      rw [skipSpace_of_not (isSpace_of_numeral hc)] at hblank
      contradiction
  · contradiction

end CloudGate.Json
