import CloudGate.Net.Host
import CloudGate.Proofs.Text.Letter

/-!
Percent-encoded text: what its characters are, and how it is read back.

* `percentEncode_escaped`: it consists of unreserved characters and complete escapes.
* `percentDecode?_percentEncode`: decoding gives back what was encoded, so that no two texts have
  the same encoding.
* `percentEncode_of_unreserved`: text of unreserved characters stays as it is.
-/

namespace CloudGate.Text

/-! ## Digits and bytes -/

theorem hexDigitValue?_upperHexDigit {n : Nat} (h : n < 16) :
    Net.hexDigitValue? (upperHexDigit n) = some n := by
  have hall : ∀ n < 16, Net.hexDigitValue? (upperHexDigit n) = some n := by decide
  exact hall n h

theorem utf8_lt (c : Char) : ∀ b ∈ utf8 c, b < 256 := by
  have hvalid := toNat_lt c
  unfold utf8
  by_cases h1 : c.toNat < 0x80
  · simp only [h1, ↓reduceIte, List.mem_singleton, forall_eq]
    omega
  by_cases h2 : c.toNat < 0x800
  · simp only [h1, h2, ↓reduceIte, List.mem_cons, List.not_mem_nil, or_false, forall_eq_or_imp,
      forall_eq]
    omega
  by_cases h3 : c.toNat < 0x10000
  · simp only [h1, h2, h3, ↓reduceIte, List.mem_cons, List.not_mem_nil, or_false,
      forall_eq_or_imp, forall_eq]
    omega
  · simp only [h1, h2, h3, ↓reduceIte, List.mem_cons, List.not_mem_nil, or_false,
      forall_eq_or_imp, forall_eq]
    omega

/-- The bytes of a character are those of its standard encoding. -/
theorem map_toUInt8_utf8 (c : Char) : (utf8 c).map Nat.toUInt8 = String.utf8EncodeChar c := by
  have hvalid := toNat_lt c
  have hval : c.val.toNat = c.toNat := rfl
  unfold utf8 String.utf8EncodeChar
  by_cases h1 : c.toNat < 0x80
  · have h1' : c.toNat ≤ 0x7f := by omega
    simp only [hval, h1, h1', ↓reduceIte, List.map_cons, List.map_nil, Nat.toUInt8]
  have h1' : ¬ c.toNat ≤ 0x7f := by omega
  by_cases h2 : c.toNat < 0x800
  · have h2' : c.toNat ≤ 0x7ff := by omega
    have hfirst : c.toNat / 64 % 0x20 + 0xC0 = 0xC0 + c.toNat / 64 := by omega
    simp only [hval, h1, h1', h2, h2', ↓reduceIte, List.map_cons, List.map_nil, Nat.toUInt8, hfirst,
      Nat.add_comm _ 0x80]
  have h2' : ¬ c.toNat ≤ 0x7ff := by omega
  by_cases h3 : c.toNat < 0x10000
  · have h3' : c.toNat ≤ 0xffff := by omega
    have hfirst : c.toNat / 4096 % 0x10 + 0xE0 = 0xE0 + c.toNat / 4096 := by omega
    simp only [hval, h1, h1', h2, h2', h3, h3', ↓reduceIte, List.map_cons, List.map_nil,
      Nat.toUInt8, hfirst, Nat.add_comm _ 0x80]
  · have h3' : ¬ c.toNat ≤ 0xffff := by omega
    have hfirst : c.toNat / 262144 % 0x08 + 0xF0 = 0xF0 + c.toNat / 262144 := by omega
    simp only [hval, h1, h1', h2, h2', h3, h3', ↓reduceIte, List.map_cons, List.map_nil,
      Nat.toUInt8, hfirst, Nat.add_comm _ 0x80]

/-! ## The shape of encoded text -/

/-- Text of unreserved characters and escapes of two hexadecimal digits. -/
inductive Escaped : List Char → Prop
  | nil : Escaped []
  | plain {c : Char} {cs : List Char} (hc : isUnreserved c = true) (h : Escaped cs) :
    Escaped (c :: cs)
  | escape {a b : Char} {cs : List Char} (ha : (Net.hexDigitValue? a).isSome = true)
    (hb : (Net.hexDigitValue? b).isSome = true) (h : Escaped cs) : Escaped ('%' :: a :: b :: cs)

theorem ne_of_isUnreserved {c d : Char} (hc : isUnreserved c = true)
    (hd : isUnreserved d = false) : c ≠ d := by
  rintro rfl
  rw [hc] at hd
  contradiction

theorem isAscii_of_hexDigit {c : Char} (h : (Net.hexDigitValue? c).isSome = true) :
    isAscii c = true := by
  simp only [isAscii, decide_eq_true_eq]
  unfold Net.hexDigitValue? at h
  split at h
  · rename_i hdigit
    have hle : c.toNat ≤ 57 := hdigit.2
    omega
  · split at h
    · rename_i hlower
      have hle : c.toNat ≤ 102 := hlower.2
      omega
    · split at h
      · rename_i hupper
        have hle : c.toNat ≤ 70 := hupper.2
        omega
      · contradiction

theorem isUnreserved_of_hexDigit {c : Char} (h : (Net.hexDigitValue? c).isSome = true) :
    isUnreserved c = true :=
  forall_ascii
    (P := fun c => (Net.hexDigitValue? c).isSome = true → isUnreserved c = true) (by decide)
    (isAscii_of_hexDigit h) h

/-- A reserved character other than the percent sign does not occur. -/
theorem Escaped.not_mem {cs : List Char} (h : Escaped cs) {d : Char}
    (hd : isUnreserved d = false) (hpercent : d ≠ '%') : d ∉ cs := by
  induction h with
  | nil => exact List.not_mem_nil
  | plain hc _ ih =>
    rw [List.mem_cons, not_or]
    exact ⟨(ne_of_isUnreserved hc hd).symm, ih⟩
  | escape ha hb _ ih =>
    rw [List.mem_cons, List.mem_cons, List.mem_cons, not_or, not_or, not_or]
    exact ⟨hpercent, (ne_of_isUnreserved (isUnreserved_of_hexDigit ha) hd).symm,
      (ne_of_isUnreserved (isUnreserved_of_hexDigit hb) hd).symm, ih⟩

/-- Every percent sign starts an escape. -/
theorem Escaped.percent {cs : List Char} (h : Escaped cs) (before after : List Char)
    (heq : cs = before ++ '%' :: after) :
    ∃ a b rest, after = a :: b :: rest ∧ (Net.hexDigitValue? a).isSome = true ∧
      (Net.hexDigitValue? b).isSome = true := by
  induction h generalizing before with
  | nil => simp at heq
  | plain hc _ ih =>
    cases before with
    | nil =>
      obtain ⟨rfl, -⟩ := List.cons.inj heq
      exact absurd hc (by decide)
    | cons d before => exact ih before (List.cons.inj heq).2
  | @escape a b cs ha hb _ ih =>
    cases before with
    | nil => exact ⟨a, b, cs, (List.cons.inj heq).2.symm, ha, hb⟩
    | cons d before =>
      have htail := (List.cons.inj heq).2
      cases before with
      | nil =>
        obtain ⟨rfl, -⟩ := List.cons.inj htail
        exact absurd ha (by decide)
      | cons d' before =>
        have htail' := (List.cons.inj htail).2
        cases before with
        | nil =>
          obtain ⟨rfl, -⟩ := List.cons.inj htail'
          exact absurd hb (by decide)
        | cons d'' before => exact ih before (List.cons.inj htail').2

theorem Escaped.append {cs ds : List Char} (hc : Escaped cs) (hd : Escaped ds) :
    Escaped (cs ++ ds) := by
  induction hc with
  | nil => exact hd
  | plain hc _ ih => exact .plain hc ih
  | escape ha hb _ ih => exact .escape ha hb ih

theorem percentByte_escaped {b : Nat} (h : b < 256) : Escaped (percentByte b) := by
  have hhigh := hexDigitValue?_upperHexDigit (n := b / 16) (by omega)
  have hlow := hexDigitValue?_upperHexDigit (n := b % 16) (by omega)
  exact .escape (by rw [hhigh]; rfl) (by rw [hlow]; rfl) .nil

theorem percentBytes_escaped {bytes : List Nat} (h : ∀ b ∈ bytes, b < 256) :
    Escaped (bytes.flatMap percentByte) := by
  induction bytes with
  | nil => exact .nil
  | cons b rest ih =>
    rw [List.flatMap_cons]
    obtain ⟨hb, hrest⟩ := List.forall_mem_cons.mp h
    exact (percentByte_escaped hb).append (ih hrest)

theorem percentEncode_cons (c : Char) (cs : List Char) :
    percentEncode (c :: cs) =
      (if isUnreserved c = true then [c] else percentChar c) ++ percentEncode cs := by
  rw [percentEncode, percentEncodeBut, List.flatMap_cons]
  rfl

theorem percentEncode_escaped (cs : List Char) : Escaped (percentEncode cs) := by
  induction cs with
  | nil => exact .nil
  | cons c rest ih =>
    rw [percentEncode_cons]
    split
    · rename_i hc
      exact .plain hc ih
    · exact (percentBytes_escaped (utf8_lt c)).append ih

theorem percentEncode_of_unreserved {cs : List Char} (h : ∀ c ∈ cs, isUnreserved c = true) :
    percentEncode cs = cs := by
  induction cs with
  | nil => rfl
  | cons c rest ih =>
    obtain ⟨hc, hrest⟩ := List.forall_mem_cons.mp h
    rw [percentEncode_cons, if_pos hc, ih hrest, List.singleton_append]

/-! ## Reading back -/

section Decoding

variable (bytes : List Char → List UInt8)

theorem decode_cons_of_ne {c : Char} (h : c ≠ '%') (rest : List Char) :
    Net.Host.percentDecode?.go bytes (c :: rest) =
      bytes [c] ++ Net.Host.percentDecode?.go bytes rest := by
  rw [Net.Host.percentDecode?.go]
  rintro a b more rfl
  exact absurd rfl h

theorem decode_percentByte {b : Nat} (h : b < 256) (rest : List Char) :
    Net.Host.percentDecode?.go bytes (percentByte b ++ rest) =
      b.toUInt8 :: Net.Host.percentDecode?.go bytes rest := by
  have hsum : b / 16 * 16 + b % 16 = b := by omega
  simp only [percentByte, List.cons_append, List.nil_append, Net.Host.percentDecode?.go]
  rw [hexDigitValue?_upperHexDigit (by omega), hexDigitValue?_upperHexDigit (by omega)]
  simp only [hsum]

theorem decode_percentBytes {bs : List Nat} (h : ∀ b ∈ bs, b < 256) (rest : List Char) :
    Net.Host.percentDecode?.go bytes (bs.flatMap percentByte ++ rest) =
      bs.map Nat.toUInt8 ++ Net.Host.percentDecode?.go bytes rest := by
  induction bs with
  | nil => rfl
  | cons b more ih =>
    obtain ⟨hb, hmore⟩ := List.forall_mem_cons.mp h
    rw [List.flatMap_cons, List.append_assoc, decode_percentByte bytes hb, ih hmore, List.map_cons,
      List.cons_append]

/-- Decoding sees the bytes of the encoded characters. -/
theorem decode_percentEncode (hbytes : ∀ c, bytes [c] = String.utf8EncodeChar c) (cs : List Char) :
    Net.Host.percentDecode?.go bytes (percentEncode cs) = cs.flatMap String.utf8EncodeChar := by
  induction cs with
  | nil => simp [percentEncode, percentEncodeBut, Net.Host.percentDecode?.go]
  | cons c rest ih =>
    rw [percentEncode_cons, List.flatMap_cons]
    split
    · rename_i hc
      have hne : c ≠ '%' := ne_of_isUnreserved hc (by decide)
      rw [List.singleton_append, decode_cons_of_ne bytes hne, hbytes, ih]
    · rw [percentChar, decode_percentBytes bytes (utf8_lt c), map_toUInt8_utf8, ih]

end Decoding

theorem percentDecode?_percentEncode (cs : List Char) :
    Net.Host.percentDecode? (percentEncode cs) = some cs := by
  have hbytes : ∀ c : Char, [c].flatMap (fun c => (utf8 c).map Nat.toUInt8) =
      String.utf8EncodeChar c := by
    intro c
    rw [List.flatMap_singleton, map_toUInt8_utf8]
  have hvalid : (String.ofList cs).toByteArray.IsValidUTF8 := (String.ofList cs).isValidUTF8
  have hread : String.fromUTF8? (String.ofList cs).toByteArray = some (String.ofList cs) := by
    unfold String.fromUTF8?
    rw [dif_pos hvalid]
    rfl
  unfold Net.Host.percentDecode?
  simp only [decode_percentEncode _ hbytes cs]
  rw [← List.utf8Encode, ← String.toByteArray_ofList, hread, Option.map_some, String.toList_ofList]

theorem percentEncode_injective {cs ds : List Char} (h : percentEncode cs = percentEncode ds) :
    cs = ds := by
  have hd := percentDecode?_percentEncode ds
  rw [← h, percentDecode?_percentEncode] at hd
  exact Option.some.inj hd

end CloudGate.Text
