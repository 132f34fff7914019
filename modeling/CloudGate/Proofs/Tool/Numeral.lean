import CloudGate.Proofs.Text.Blank
import CloudGate.Proofs.Text.Letter
import CloudGate.Text.Percent
import CloudGate.Tool.Call

/-!
Decimal numerals of integers, as they are written and read.

* `numeral_char`: a numeral consists of digits, after a minus sign for negative integers.
* `toDigits_valueOf`: digits without a zero in front are what is written for their value.
* `parseInt64?_eq_some`: what reads as an integer is digits after an optional sign, within 64 bits.
* `parseInt64?_numeral`: what is written for an integer of 64 bits reads as this integer.
-/

namespace CloudGate

/-! ## Writing -/

theorem toList_numeral (n : Int) :
    (toString n).toList =
      if 0 ≤ n then Nat.toDigits 10 n.toNat else '-' :: Nat.toDigits 10 (-n).toNat := by
  rw [Int.toString_eq_repr, Int.repr_eq_if]
  split
  · rw [Nat.toList_repr]
  · rw [String.toList_append, Nat.toList_repr]
    rfl

theorem isDigit_of_mem_digits {n : Nat} {c : Char} (h : c ∈ Nat.toDigits 10 n) :
    c.isDigit = true :=
  Nat.isDigit_of_mem_toDigits (by decide) (by decide) h

theorem numeral_ne_nil (n : Int) : (toString n).toList ≠ [] := by
  rw [toList_numeral]
  split
  · exact Nat.toDigits_ne_nil
  · exact List.cons_ne_nil _ _

theorem numeral_char {n : Int} {c : Char} (h : c ∈ (toString n).toList) :
    c.isDigit = true ∨ c = '-' := by
  rw [toList_numeral] at h
  split at h
  · exact Or.inl (isDigit_of_mem_digits h)
  · rcases List.mem_cons.mp h with rfl | h
    · exact Or.inr rfl
    · exact Or.inl (isDigit_of_mem_digits h)

/-! ## Reading -/

theorem isAscii_of_isDigit {c : Char} (h : c.isDigit = true) : Text.isAscii c = true := by
  have hle : c.toNat ≤ 57 := by
    simp only [Char.isDigit, Bool.and_eq_true, decide_eq_true_eq] at h
    exact h.2
  simp only [Text.isAscii, decide_eq_true_eq]
  omega

theorem isBlank_of_isDigit {c : Char} (h : c.isDigit = true) : Text.isBlank c = false :=
  Text.forall_ascii (P := fun c => c.isDigit = true → Text.isBlank c = false) (by decide)
    (isAscii_of_isDigit h) h

theorem isUnreserved_of_isDigit {c : Char} (h : c.isDigit = true) : Text.isUnreserved c = true := by
  simp [Text.isUnreserved, Char.isAlphanum, h]

/-- The value of a sequence of digits. -/
def valueOf (digits : List Char) : Nat := digits.foldl (fun n c => n * 10 + (c.toNat - 48)) 0

theorem valueOf_toDigits (n : Nat) : valueOf (Nat.toDigits 10 n) = n := by
  have h := Nat.ofDigitChars_ten_toDigits (n := n)
  rw [Nat.ofDigitChars_eq_foldl] at h
  simp only [Nat.mul_comm 10] at h
  exact h

theorem digitChar_toNat {c : Char} (h : c.isDigit = true) :
    c.toNat - 48 < 10 ∧ Nat.digitChar (c.toNat - 48) = c := by
  have hall : ∀ c : Char, Text.isAscii c = true → c.isDigit = true →
      c.toNat - 48 < 10 ∧ Nat.digitChar (c.toNat - 48) = c :=
    fun c => Text.forall_ascii (P := fun c => c.isDigit = true →
      c.toNat - 48 < 10 ∧ Nat.digitChar (c.toNat - 48) = c) (by decide)
  exact hall c (isAscii_of_isDigit h) h

/-- Digits behind a positive number go on with its numeral. -/
theorem toDigits_foldl {digits : List Char} (h : ∀ c ∈ digits, c.isDigit = true) {n : Nat}
    (hn : 0 < n) : Nat.toDigits 10 (digits.foldl (fun n c => n * 10 + (c.toNat - 48)) n) =
      Nat.toDigits 10 n ++ digits := by
  induction digits generalizing n with
  | nil => exact (List.append_nil _).symm
  | cons c rest ih =>
    obtain ⟨hc, hrest⟩ := List.forall_mem_cons.mp h
    obtain ⟨hlt, hchar⟩ := digitChar_toNat hc
    have hstep := Nat.toDigits_append_toDigits (by decide : 1 < 10) hn hlt
    rw [Nat.toDigits_of_lt_base hlt, hchar, Nat.mul_comm 10] at hstep
    rw [List.foldl_cons, ih hrest (by omega), ← hstep, List.append_assoc, List.singleton_append]

theorem toDigits_valueOf {c : Char} {rest : List Char}
    (h : ∀ d ∈ c :: rest, d.isDigit = true) (hzero : c ≠ '0') :
    Nat.toDigits 10 (valueOf (c :: rest)) = c :: rest := by
  obtain ⟨hc, hrest⟩ := List.forall_mem_cons.mp h
  obtain ⟨hlt, hchar⟩ := digitChar_toNat hc
  have hpos : 0 < c.toNat - 48 := by
    refine Nat.pos_of_ne_zero fun hnone => hzero ?_
    rw [hnone] at hchar
    exact hchar.symm
  have hfirst : 0 * 10 + (c.toNat - 48) = c.toNat - 48 := by omega
  rw [valueOf, List.foldl_cons, hfirst, toDigits_foldl hrest hpos, Nat.toDigits_of_lt_base hlt,
    hchar, List.singleton_append]

/-! ## Integers with a sign -/

/-- A run of digits, at least one, and the number that it denotes. -/
def DigitRun (digits : List Char) (n : Nat) : Prop :=
  digits ≠ [] ∧ (∀ c ∈ digits, c.isDigit = true) ∧ Nat.ofDigitChars 10 digits 0 = n

/-- A run of digits after an optional sign, and the integer that it denotes. -/
inductive SignedDigits : List Char → Int → Prop
  | plain {digits : List Char} {n : Nat} (h : DigitRun digits n) : SignedDigits digits n
  | plus {digits : List Char} {n : Nat} (h : DigitRun digits n) : SignedDigits ('+' :: digits) n
  | minus {digits : List Char} {n : Nat} (h : DigitRun digits n) : SignedDigits ('-' :: digits) (-n)

theorem valueOf_eq_ofDigitChars (digits : List Char) :
    valueOf digits = Nat.ofDigitChars 10 digits 0 := by
  rw [Nat.ofDigitChars_eq_foldl]
  simp only [Nat.mul_comm 10]
  rfl

theorem digitRun_toDigits (n : Nat) : DigitRun (Nat.toDigits 10 n) n :=
  ⟨Nat.toDigits_ne_nil, fun _ => isDigit_of_mem_digits, Nat.ofDigitChars_ten_toDigits⟩

theorem signedDigits_numeral (n : Int) : SignedDigits (toString n).toList n := by
  rw [toList_numeral]
  split
  · rename_i hpos
    have h := SignedDigits.plain (digitRun_toDigits n.toNat)
    rwa [Int.toNat_of_nonneg hpos] at h
  · rename_i hneg
    have hn : -(((-n).toNat : Nat) : Int) = n := by omega
    have h := SignedDigits.minus (digitRun_toDigits (-n).toNat)
    rwa [hn] at h

theorem DigitRun.not_sign {c : Char} {rest : List Char} {n : Nat} (h : DigitRun (c :: rest) n) :
    c ≠ '-' ∧ c ≠ '+' := by
  have hc := h.2.1 c (List.mem_cons_self ..)
  constructor
  · rintro rfl
    exact absurd hc (by decide)
  · rintro rfl
    exact absurd hc (by decide)

/-- Which sign there is decides how the digits are read. -/
theorem signedDigits_minus {digits : List Char} {n : Int} :
    SignedDigits ('-' :: digits) n ↔ ∃ m, DigitRun digits m ∧ -(m : Int) = n := by
  constructor
  · intro h
    cases h with
    | plain h => exact absurd rfl h.not_sign.1
    | minus h => exact ⟨_, h, rfl⟩
  · rintro ⟨m, h, rfl⟩
    exact .minus h

theorem signedDigits_plus {digits : List Char} {n : Int} :
    SignedDigits ('+' :: digits) n ↔ ∃ m, DigitRun digits m ∧ (m : Int) = n := by
  constructor
  · intro h
    cases h with
    | plain h => exact absurd rfl h.not_sign.2
    | plus h => exact ⟨_, h, rfl⟩
  · rintro ⟨m, h, rfl⟩
    exact .plus h

theorem signedDigits_plain {digits : List Char} {n : Int} (hminus : digits.head? ≠ some '-')
    (hplus : digits.head? ≠ some '+') :
    SignedDigits digits n ↔ ∃ m, DigitRun digits m ∧ (m : Int) = n := by
  constructor
  · intro h
    cases h with
    | plain h => exact ⟨_, h, rfl⟩
    | plus h => exact absurd rfl hplus
    | minus h => exact absurd rfl hminus
  · rintro ⟨m, h, rfl⟩
    exact .plain h

theorem DigitRun.unique {digits : List Char} {n m : Nat} (h : DigitRun digits n)
    (h' : DigitRun digits m) : n = m := h.2.2.symm.trans h'.2.2

theorem SignedDigits.unique {cs : List Char} {n m : Int} (h : SignedDigits cs n)
    (h' : SignedDigits cs m) : n = m := by
  cases h with
  | plus h =>
    obtain ⟨k, hk, rfl⟩ := signedDigits_plus.mp h'
    rw [h.unique hk]
  | minus h =>
    obtain ⟨k, hk, rfl⟩ := signedDigits_minus.mp h'
    rw [h.unique hk]
  | plain h =>
    cases h' with
    | plain h' => rw [h.unique h']
    | plus _ => exact absurd rfl h.not_sign.2
    | minus _ => exact absurd rfl h.not_sign.1

theorem SignedDigits.char {cs : List Char} {n : Int} (h : SignedDigits cs n) :
    ∀ c ∈ cs, c.isDigit = true ∨ c = '+' ∨ c = '-' := by
  intro c hc
  cases h with
  | plain h => exact .inl (h.2.1 c hc)
  | plus h =>
    rcases List.mem_cons.mp hc with rfl | hc
    · exact .inr (.inl rfl)
    · exact .inl (h.2.1 c hc)
  | minus h =>
    rcases List.mem_cons.mp hc with rfl | hc
    · exact .inr (.inr rfl)
    · exact .inl (h.2.1 c hc)

theorem SignedDigits.bare {cs : List Char} {n : Int} (h : SignedDigits cs n) : Text.Bare cs := by
  refine Text.bare_of_not_blank fun c hc => ?_
  rcases h.char c hc with hdigit | rfl | rfl
  · exact isBlank_of_isDigit hdigit
  · rfl
  · rfl

theorem SignedDigits.ne_nil {cs : List Char} {n : Int} (h : SignedDigits cs n) : cs ≠ [] := by
  cases h with
  | plain h => exact h.1
  | plus _ => exact List.cons_ne_nil _ _
  | minus _ => exact List.cons_ne_nil _ _

theorem digits_eq_some {digits : List Char} {n : Nat} :
    (if digits.isEmpty || !digits.all Char.isDigit then none else some (valueOf digits)) = some n ↔
      DigitRun digits n := by
  rw [valueOf_eq_ofDigitChars]
  simp [DigitRun, and_assoc]

theorem mapCast_eq_some {o : Option Nat} {f : Int → Int} {n : Int} :
    (o >>= fun m => pure (m : Int)).map f = some n ↔ ∃ m, o = some m ∧ f m = n := by
  cases o with
  | none => simp
  | some m => simp

theorem parseInt64?_eq_some {cs : List Char} {n : Int} :
    parseInt64? cs = some n ↔ SignedDigits cs n ∧ fitsInt64 n = true := by
  unfold parseInt64?
  simp only [Option.filter_eq_some_iff]
  refine and_congr_left fun _ => ?_
  split
  · simp only [signedDigits_minus, ← digits_eq_some]
    exact mapCast_eq_some
  · simp only [signedDigits_plus, ← digits_eq_some]
    exact mapCast_eq_some
  · rename_i hminus hplus
    have hhead : ∀ c, (∀ rest, cs = c :: rest → False) → cs.head? ≠ some c := by
      intro c hne hc
      obtain ⟨rest, rfl⟩ := List.head?_eq_some_iff.mp hc
      exact hne rest rfl
    simp only [signedDigits_plain (hhead _ hminus) (hhead _ hplus), ← digits_eq_some]
    exact mapCast_eq_some

theorem parseInt64?_numeral {n : Int} (h : fitsInt64 n = true) :
    parseInt64? (Text.trimChars (toString n).toList) = some n := by
  have hdigits := signedDigits_numeral n
  rw [Text.trimChars_bare hdigits.bare]
  exact parseInt64?_eq_some.mpr ⟨hdigits, h⟩

end CloudGate
