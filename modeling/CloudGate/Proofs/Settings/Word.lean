import CloudGate.Proofs.Tool.Numeral
import CloudGate.Settings.Variable

/-!
Words without quotes in the value of a variable, and which of them are numbers.

* `signedDigits_iff`: digits after an optional sign, as they are told apart and counted.
* `int?_isSome_iff`, `real?_isSome_iff`: integers of 64 bits, and numbers with a point.
* `ofWord_eq_str_iff`: every other word is text.
-/

namespace CloudGate.Settings.Variable

/-! ## Signs -/

/-- What is left of a word without its sign. -/
def unsigned (word : List Char) : List Char :=
  match word with
  | '-' :: rest | '+' :: rest => rest
  | _ => word

def IsSign (cs : List Char) : Prop := cs = [] ∨ cs = ['+'] ∨ cs = ['-']

theorem exists_sign (word : List Char) : ∃ sign, IsSign sign ∧ word = sign ++ unsigned word := by
  unfold unsigned
  split
  · exact ⟨['-'], .inr (.inr rfl), rfl⟩
  · exact ⟨['+'], .inr (.inl rfl), rfl⟩
  · exact ⟨[], .inl rfl, rfl⟩

theorem unsigned_of_head {word : List Char} (hminus : word.head? ≠ some '-')
    (hplus : word.head? ≠ some '+') : unsigned word = word := by
  unfold unsigned
  split
  · exact absurd rfl hminus
  · exact absurd rfl hplus
  · rfl

theorem unsigned_append {sign body : List Char} (h : IsSign sign) (hminus : body.head? ≠ some '-')
    (hplus : body.head? ≠ some '+') : unsigned (sign ++ body) = body := by
  rcases h with rfl | rfl | rfl
  · exact unsigned_of_head hminus hplus
  · rfl
  · rfl

theorem head?_ne_of_cons {word : List Char} {c : Char} (h : ∀ rest, word = c :: rest → False) :
    word.head? ≠ some c := by
  intro hc
  obtain ⟨rest, rfl⟩ := List.head?_eq_some_iff.mp hc
  exact h rest rfl

/-! ## Integers -/

/-- Digits only, and at least one. -/
def isDigits (cs : List Char) : Bool := !cs.isEmpty && cs.all Char.isDigit

theorem digitRun_iff {digits : List Char} {n : Nat} :
    DigitRun digits n ↔ isDigits digits = true ∧ CloudGate.valueOf digits = n := by
  rw [valueOf_eq_ofDigitChars]
  simp [DigitRun, isDigits, and_assoc]

theorem isDigit_of_mem {digits : List Char} (h : isDigits digits = true) {c : Char}
    (hc : c ∈ digits) : c.isDigit = true := by
  simp only [isDigits, Bool.and_eq_true, List.all_eq_true] at h
  exact h.2 c hc

/-- Digits after an optional sign are known by what is left without the sign. -/
theorem signedDigits_iff {word : List Char} {n : Int} :
    SignedDigits word n ↔
      isDigits (unsigned word) = true ∧ Decimal.Real.signedValue word = n := by
  unfold unsigned Decimal.Real.signedValue
  split
  · simp [signedDigits_minus, digitRun_iff, CloudGate.valueOf, and_assoc]
  · simp [signedDigits_plus, digitRun_iff, CloudGate.valueOf, and_assoc]
  · rename_i hminus hplus
    rw [signedDigits_plain (head?_ne_of_cons hminus) (head?_ne_of_cons hplus)]
    simp [digitRun_iff, CloudGate.valueOf, and_assoc]

/-- An integer that 64 bits hold, with a sign or without one. -/
def IsInteger (word : List Char) : Prop :=
  ∃ n, SignedDigits word n ∧ minInt64 ≤ n ∧ n ≤ maxUInt64

theorem signedValue_nonpos (rest : List Char) : Decimal.Real.signedValue ('-' :: rest) ≤ 0 := by
  unfold Decimal.Real.signedValue
  simp only
  omega

theorem signedValue_nonneg {word : List Char} (h : word.head? ≠ some '-') :
    0 ≤ Decimal.Real.signedValue word := by
  unfold Decimal.Real.signedValue
  split
  · exact absurd rfl h
  · exact Int.natCast_nonneg _
  · exact Int.natCast_nonneg _

theorem int?_eq (word : List Char) : int? word =
    if !isDigits (unsigned word) then none
    else if word.head? = some '-' then
      if minInt64 ≤ Decimal.Real.signedValue word then
        some (.int (Decimal.Real.signedValue word) true)
      else none
    else if Decimal.Real.signedValue word ≤ maxUInt64 then
      some (.int (Decimal.Real.signedValue word) false)
    else none := by
  unfold isDigits
  rw [Bool.not_and, Bool.not_not]
  rfl

theorem int?_isSome_iff {word : List Char} : (int? word).isSome = true ↔ IsInteger word := by
  have hmin : minInt64 ≤ 0 := by decide
  have hmax : 0 ≤ maxUInt64 := by decide
  have hinteger : IsInteger word ↔ isDigits (unsigned word) = true ∧
      minInt64 ≤ Decimal.Real.signedValue word ∧ Decimal.Real.signedValue word ≤ maxUInt64 := by
    simp [IsInteger, signedDigits_iff, and_assoc]
  rw [int?_eq, hinteger]
  cases hdigits : isDigits (unsigned word) with
  | false => simp
  | true =>
    by_cases hsign : word.head? = some '-'
    · obtain ⟨rest, rfl⟩ := List.head?_eq_some_iff.mp hsign
      have hle : Decimal.Real.signedValue ('-' :: rest) ≤ maxUInt64 :=
        Int.le_trans (signedValue_nonpos rest) hmax
      simp [hle, Option.isSome_ite]
    · have hge : minInt64 ≤ Decimal.Real.signedValue word :=
        Int.le_trans hmin (signedValue_nonneg hsign)
      simp [hsign, hge, Option.isSome_ite]

/-! ## Numbers with a point -/

def isExponentMark (c : Char) : Bool := c == 'e' || c == 'E'

/-- The end of a number with a point: nothing, or a letter and an integer. -/
inductive IsExponent : List Char → Prop
  | none : IsExponent []
  | mark {c : Char} {digits : List Char} {n : Int} (hc : isExponentMark c = true)
      (hdigits : SignedDigits digits n) : IsExponent (c :: digits)

/-- A number with a point: an optional sign, digits on either side of the point and perhaps an
exponent. On one of the sides digits may be missing. -/
inductive IsFraction : List Char → Prop
  | intro {sign whole fraction exponent : List Char} (hsign : IsSign sign)
      (hdigits : isDigits (whole ++ fraction) = true) (hexponent : IsExponent exponent) :
      IsFraction (sign ++ (whole ++ '.' :: fraction ++ exponent))

theorem isExponent_iff {cs : List Char} :
    Decimal.Real.isExponent cs = true ↔ ∃ n, SignedDigits cs n := by
  simp only [signedDigits_iff, exists_and_left, exists_eq', and_true]
  rfl

/-- What a digit is none of: a sign, a point, the letter of an exponent. -/
theorem not_mark_of_isDigit {c : Char} (h : c.isDigit = true) :
    isExponentMark c = false ∧ c ≠ '.' ∧ c ≠ '-' ∧ c ≠ '+' :=
  Text.forall_ascii (P := fun c => c.isDigit = true →
    isExponentMark c = false ∧ c ≠ '.' ∧ c ≠ '-' ∧ c ≠ '+') (by decide) (isAscii_of_isDigit h) h

/-- The part of a numeral in front of its exponent. -/
def mantissa (body : List Char) : List Char := body.takeWhile fun c => !isExponentMark c

/-- The exponent of a numeral, if it has one. -/
def exponent? (body : List Char) : Option (List Char) :=
  if body.any isExponentMark then some (body.drop ((mantissa body).length + 1)) else none

theorem numeral_parts (word : List Char) :
    (Decimal.Real.numeral word).whole = (mantissa (unsigned word)).takeWhile (· != '.') ∧
    (Decimal.Real.numeral word).fraction =
      (if (mantissa (unsigned word)).contains '.' then
        some (((mantissa (unsigned word)).dropWhile (· != '.')).drop 1)
      else none) ∧
    (Decimal.Real.numeral word).exponent = exponent? (unsigned word) := by
  unfold Decimal.Real.numeral
  split
  rename_i negative body hbody
  have hunsigned : unsigned word = body := by
    split at hbody
    · exact (Prod.mk.inj hbody).2
    · exact (Prod.mk.inj hbody).2
    · rename_i hminus hplus
      rw [unsigned_of_head (head?_ne_of_cons hminus) (head?_ne_of_cons hplus)]
      exact (Prod.mk.inj hbody).2
  rw [hunsigned]
  exact ⟨rfl, rfl, rfl⟩

theorem real?_isSome_iff_parts {word : List Char} : (real? word).isSome = true ↔
    '.' ∈ mantissa (unsigned word) ∧
      isDigits ((mantissa (unsigned word)).takeWhile (· != '.') ++
        ((mantissa (unsigned word)).dropWhile (· != '.')).drop 1) = true ∧
      (exponent? (unsigned word)).all Decimal.Real.isExponent = true := by
  obtain ⟨hwhole, hfraction, hexponent⟩ := numeral_parts word
  unfold real? isDigits
  rw [Option.isSome_ite, hwhole, hfraction, hexponent]
  by_cases hpoint : '.' ∈ mantissa (unsigned word)
  · rw [if_pos (List.contains_iff_mem.mpr hpoint)]
    simp only [Option.isSome_some, Option.getD_some, Bool.true_and, Bool.and_eq_true, hpoint,
      true_and, and_comm]
  · rw [if_neg (mt List.contains_iff_mem.mp hpoint)]
    simp [hpoint]

theorem drop_length_succ (front : List Char) (c : Char) (rest : List Char) :
    (front ++ c :: rest).drop (front.length + 1) = rest := by
  rw [← List.drop_drop, List.drop_left, List.drop_one, List.tail_cons]

/-- The part before an exponent is known by where the letter stands. -/
theorem mantissa_append {front exponent : List Char}
    (hfront : ∀ c ∈ front, isExponentMark c = false) (hexponent : IsExponent exponent) :
    mantissa (front ++ exponent) = front ∧
      (exponent? (front ++ exponent)).all Decimal.Real.isExponent = true := by
  have hnot : ∀ c ∈ front, (!isExponentMark c) = true := fun c hc => by rw [hfront c hc]; rfl
  have hany : front.any isExponentMark = false := by
    rw [List.any_eq_false]
    exact fun c hc => Bool.eq_false_iff.mp (hfront c hc)
  cases hexponent with
  | none =>
    have hmantissa : mantissa (front ++ []) = front := by
      rw [List.append_nil]
      exact List.takeWhile_eq_self_iff.mpr hnot
    refine ⟨hmantissa, ?_⟩
    rw [exponent?, List.append_nil, hany]
    rfl
  | mark hc hdigits =>
    rename_i c digits n
    have hmantissa : mantissa (front ++ c :: digits) = front := by
      rw [mantissa, List.takeWhile_append_of_pos hnot, List.takeWhile_cons, hc]
      exact List.append_nil front
    refine ⟨hmantissa, ?_⟩
    rw [exponent?, hmantissa, List.any_append, List.any_cons, hc, Bool.true_or, Bool.or_true,
      if_pos rfl, drop_length_succ]
    exact isExponent_iff.mpr ⟨n, hdigits⟩

theorem exists_exponent {body : List Char}
    (h : (exponent? body).all Decimal.Real.isExponent = true) :
    ∃ exponent, body = mantissa body ++ exponent ∧ IsExponent exponent := by
  have hbody : body = mantissa body ++ body.dropWhile fun c => !isExponentMark c :=
    List.takeWhile_append_dropWhile.symm
  refine ⟨_, hbody, ?_⟩
  cases hrest : body.dropWhile fun c => !isExponentMark c with
  | nil => exact .none
  | cons c rest =>
    have hc : isExponentMark c = true := by
      have hhead := List.head?_dropWhile_not (fun c => !isExponentMark c) body
      rw [hrest] at hhead
      simpa using hhead
    rw [hrest] at hbody
    have hany : body.any isExponentMark = true :=
      List.any_eq_true.mpr ⟨c, hbody ▸ List.mem_append_right _ (List.mem_cons_self ..), hc⟩
    have hdrop := drop_length_succ (mantissa body) c rest
    rw [← hbody] at hdrop
    rw [exponent?, if_pos hany, hdrop] at h
    obtain ⟨n, hdigits⟩ := isExponent_iff.mp h
    exact .mark hc hdigits

/-- The parts of a text on either side of its first point. -/
theorem point_append {whole : List Char} (h : '.' ∉ whole) (fraction : List Char) :
    (whole ++ '.' :: fraction).takeWhile (· != '.') = whole ∧
      ((whole ++ '.' :: fraction).dropWhile (· != '.')).drop 1 = fraction := by
  have hnot : ∀ c ∈ whole, (c != '.') = true := by
    rintro c hc
    exact bne_iff_ne.mpr fun heq => h (heq ▸ hc)
  constructor
  · rw [List.takeWhile_append_of_pos hnot]
    exact List.append_nil whole
  · rw [List.dropWhile_append_of_pos hnot]
    rfl

theorem exists_point {front : List Char} (h : '.' ∈ front) :
    front = front.takeWhile (· != '.') ++ '.' :: (front.dropWhile (· != '.')).drop 1 := by
  obtain ⟨whole, fraction, rfl, hwhole⟩ := List.eq_append_cons_of_mem h
  obtain ⟨htake, hdrop⟩ := point_append hwhole fraction
  rw [htake, hdrop]

theorem real?_isSome_iff {word : List Char} : (real? word).isSome = true ↔ IsFraction word := by
  rw [real?_isSome_iff_parts]
  constructor
  · rintro ⟨hpoint, hdigits, hexponent⟩
    obtain ⟨sign, hsign, hword⟩ := exists_sign word
    obtain ⟨exponent, hbody, hexponent⟩ := exists_exponent hexponent
    have h := IsFraction.intro hsign hdigits hexponent
    rwa [← exists_point hpoint, ← hbody, ← hword] at h
  · rintro ⟨hsign, hdigits, hexponent⟩
    rename_i sign whole fraction exponent
    have hwhole : '.' ∉ whole := fun hmem =>
      (not_mark_of_isDigit (isDigit_of_mem hdigits (List.mem_append_left _ hmem))).2.1 rfl
    have hchar : ∀ c ∈ whole ++ '.' :: fraction,
        isExponentMark c = false ∧ c ≠ '-' ∧ c ≠ '+' := by
      intro c hc
      rw [List.mem_append, List.mem_cons, or_left_comm, ← List.mem_append] at hc
      rcases hc with rfl | hc
      · decide
      · obtain ⟨hmark, -, hsigns⟩ := not_mark_of_isDigit (isDigit_of_mem hdigits hc)
        exact ⟨hmark, hsigns⟩
    have hhead : ∀ c, (whole ++ '.' :: fraction ++ exponent).head? = some c →
        c ≠ '-' ∧ c ≠ '+' := by
      intro c hc
      refine (hchar c (List.mem_of_mem_head? ?_)).2
      cases whole with
      | nil => exact hc
      | cons d rest => exact hc
    have hunsigned := unsigned_append hsign (fun h => (hhead _ h).1 rfl) fun h => (hhead _ h).2 rfl
    obtain ⟨hmantissa, hall⟩ := mantissa_append (fun c hc => (hchar c hc).1) hexponent
    obtain ⟨htake, hdrop⟩ := point_append hwhole fraction
    rw [hunsigned, hmantissa, htake, hdrop]
    exact ⟨List.mem_append_right _ (List.mem_cons_self ..), hdigits, hall⟩

/-! ## Words -/

/-- A word that is a number. -/
def IsNumber (word : List Char) : Prop := IsInteger word ∨ IsFraction word

theorem IsFraction.point_mem {word : List Char} (h : IsFraction word) : '.' ∈ word := by
  cases h with
  | intro hsign hdigits hexponent =>
    exact List.mem_append_right _ (List.mem_append_left _ (List.mem_append_right _
      (List.mem_cons_self ..)))

theorem int?_eq_int {word : List Char} {x : Scalar} (h : int? word = some x) :
    ∃ n signed, x = .int n signed := by
  rw [int?_eq] at h
  split at h
  · contradiction
  · split at h
    · obtain ⟨-, h⟩ := Option.ite_none_right_eq_some.mp h
      exact ⟨_, _, (Option.some.inj h).symm⟩
    · obtain ⟨-, h⟩ := Option.ite_none_right_eq_some.mp h
      exact ⟨_, _, (Option.some.inj h).symm⟩

/-- A word is text as it stands, unless it is a number. -/
theorem ofWord_eq_str_iff {word : List Char} {s : String} :
    ofWord word = .str s ↔ ¬ IsNumber word ∧ s = String.ofList word := by
  have hreal : (if word.contains '.' then real? word else none).isSome = true ↔
      IsFraction word := by
    by_cases hpoint : '.' ∈ word
    · rw [if_pos (List.contains_iff_mem.mpr hpoint)]
      exact real?_isSome_iff
    · rw [if_neg (mt List.contains_iff_mem.mp hpoint)]
      exact iff_of_false Bool.false_ne_true fun h => hpoint h.point_mem
  unfold ofWord IsNumber
  rw [← hreal, ← int?_isSome_iff]
  generalize (if word.contains '.' then real? word else none) = number
  cases number with
  | some x => simp
  | none =>
    cases hint : int? word with
    | none =>
      constructor
      · intro h
        exact ⟨by simp, (Scalar.str.inj h).symm⟩
      · rintro ⟨-, rfl⟩
        rfl
    | some x =>
      obtain ⟨n, signed, rfl⟩ := int?_eq_int hint
      simp

end CloudGate.Settings.Variable
