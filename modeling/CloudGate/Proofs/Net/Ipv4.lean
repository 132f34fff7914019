import CloudGate.Net.Ipv4
import CloudGate.Proofs.Text.Split
import CloudGate.Proofs.Tool.Numeral

/-!
IPv4 addresses: their one written form, and the blocks that they lie in.

* `octet?_eq_some`: a part of an address is the numeral of a number up to 255.
* `parse?_eq_some`: so an address has one written form, and nothing else is read.
* `isInternal_iff`: the tests of single parts find the addresses of four blocks.
-/

namespace CloudGate.Net

/-! ## Parts -/

theorem octet?_toDigits : ∀ n < 256, octet? (Nat.toDigits 10 n) = some n := by decide +kernel

/-- Either a single digit or digits without a zero in front. -/
theorem octet?_eq_some {cs : List Char} {n : Nat} :
    octet? cs = some n ↔ n ≤ 255 ∧ cs = Nat.toDigits 10 n := by
  constructor
  · intro h
    unfold octet? at h
    simp only at h
    split at h
    · rename_i hcs
      obtain rfl := Option.some.inj h
      simp only [Bool.and_eq_true, Bool.or_eq_true, Bool.not_eq_true', beq_iff_eq, bne_iff_ne,
        decide_eq_true_eq, List.all_eq_true] at hcs
      obtain ⟨⟨⟨⟨hne, -⟩, hdigits⟩, hzero⟩, hmost⟩ := hcs
      refine ⟨hmost, ?_⟩
      cases cs with
      | nil => exact Bool.noConfusion hne
      | cons c rest =>
        by_cases hc : c = '0'
        · subst hc
          rcases hzero with hsingle | hother
          · obtain rfl := List.eq_nil_of_length_eq_zero (Nat.succ.inj hsingle)
            rfl
          · exact absurd rfl hother
        · exact (toDigits_valueOf hdigits hc).symm
    · contradiction
  · rintro ⟨hmost, rfl⟩
    exact octet?_toDigits n (Nat.lt_succ_of_le hmost)

namespace Ipv4

/-! ## The written form -/

/-- The four parts are octets. -/
structure IsValid (ip : Ipv4) : Prop where
  a : ip.a ≤ 255
  b : ip.b ≤ 255
  c : ip.c ≤ 255
  d : ip.d ≤ 255

/-- Four decimal numerals with points between them. -/
def text (ip : Ipv4) : String :=
  toString ip.a ++ "." ++ toString ip.b ++ "." ++ toString ip.c ++ "." ++ toString ip.d

/-- The numerals of an address. -/
def numerals (ip : Ipv4) : List (List Char) :=
  [Nat.toDigits 10 ip.a, Nat.toDigits 10 ip.b, Nat.toDigits 10 ip.c, Nat.toDigits 10 ip.d]

theorem toList_text (ip : Ipv4) : ip.text.toList = ['.'].intercalate ip.numerals := by
  have hpoint : ".".toList = ['.'] := rfl
  simp only [text, numerals, String.toList_append, Nat.toString_eq_repr, Nat.toList_repr, hpoint,
    List.intercalate_cons_cons, List.intercalate_singleton, List.append_assoc]

theorem splitBy_text (ip : Ipv4) : Text.splitBy '.' ip.text.toList = ip.numerals := by
  have hplain : ∀ n : Nat, '.' ∉ Nat.toDigits 10 n := fun n hmem =>
    absurd (isDigit_of_mem_digits hmem) (by decide)
  rw [toList_text]
  refine Text.splitBy_intercalate (List.cons_ne_nil _ _) ?_
  simp only [numerals, List.forall_mem_cons, hplain, not_false_eq_true, true_and]
  exact List.forall_mem_nil _

theorem text_char {ip : Ipv4} {c : Char} (h : c ∈ ip.text.toList) :
    c.isDigit = true ∨ c = '.' := by
  have hpoint : ".".toList = ['.'] := rfl
  simp only [text, String.toList_append, Nat.toString_eq_repr, Nat.toList_repr, hpoint,
    List.mem_append, List.mem_singleton] at h
  grind [isDigit_of_mem_digits]

theorem point_mem_text (ip : Ipv4) : '.' ∈ ip.text.toList := by
  simp [text]

/-- An address has one written form, and nothing else is read as an address. -/
theorem parse?_eq_some {cs : List Char} {ip : Ipv4} :
    parse? cs = some ip ↔ ip.IsValid ∧ cs = ip.text.toList := by
  constructor
  · intro h
    unfold parse? at h
    split at h
    · rename_i w x y z hpieces
      simp only [Option.bind_eq_bind, Option.bind_eq_some_iff, Option.pure_def,
        Option.some.injEq, octet?_eq_some] at h
      obtain ⟨a, ⟨ha, rfl⟩, b, ⟨hb, rfl⟩, c, ⟨hc, rfl⟩, d, ⟨hd, rfl⟩, rfl⟩ := h
      refine ⟨⟨ha, hb, hc, hd⟩, ?_⟩
      rw [toList_text, ← Text.intercalate_splitBy '.' cs, hpieces]
      rfl
    · contradiction
  · rintro ⟨hvalid, rfl⟩
    have ha := octet?_eq_some.mpr ⟨hvalid.a, rfl⟩
    have hb := octet?_eq_some.mpr ⟨hvalid.b, rfl⟩
    have hc := octet?_eq_some.mpr ⟨hvalid.c, rfl⟩
    have hd := octet?_eq_some.mpr ⟨hvalid.d, rfl⟩
    unfold parse?
    rw [splitBy_text, numerals]
    simp only [ha, hb, hc, hd]
    rfl

/-! ## Blocks -/

/-- The 32 bits of an address as a number. -/
def bits (ip : Ipv4) : Nat := ((ip.a * 256 + ip.b) * 256 + ip.c) * 256 + ip.d

/-- The addresses that begin with the first bits of a base, as many as `length` tells. -/
structure Block where
  base : Ipv4
  length : Nat

def Block.Contains (block : Block) (ip : Ipv4) : Prop :=
  ip.bits >>> (32 - block.length) = block.base.bits >>> (32 - block.length)

/-- `127.0.0.0/8`, `10.0.0.0/8`, `172.16.0.0/12` and `192.168.0.0/16`. -/
def internalBlocks : List Block :=
  [⟨⟨127, 0, 0, 0⟩, 8⟩, ⟨⟨10, 0, 0, 0⟩, 8⟩, ⟨⟨172, 16, 0, 0⟩, 12⟩, ⟨⟨192, 168, 0, 0⟩, 16⟩]

/-- The address is a loopback or a private one. -/
def IsInternal (ip : Ipv4) : Prop := ∃ block ∈ internalBlocks, block.Contains ip

/-- Whole octets are compared, but for the block whose length is no multiple of eight. -/
theorem isInternal_iff {ip : Ipv4} (h : ip.IsValid) :
    (ip.isLoopback || ip.isPrivate) = true ↔ ip.IsInternal := by
  obtain ⟨ha, hb, hc, hd⟩ := h
  have hwhole : ∀ n, Block.Contains ⟨⟨n, 0, 0, 0⟩, 8⟩ ip ↔ ip.a = n := by
    intro n
    simp only [Block.Contains, bits]
    omega
  have hmiddle : Block.Contains ⟨⟨172, 16, 0, 0⟩, 12⟩ ip ↔ ip.a = 172 ∧ 16 ≤ ip.b ∧ ip.b ≤ 31 := by
    simp only [Block.Contains, bits]
    omega
  have hlast : Block.Contains ⟨⟨192, 168, 0, 0⟩, 16⟩ ip ↔ ip.a = 192 ∧ ip.b = 168 := by
    simp only [Block.Contains, bits]
    omega
  simp only [IsInternal, internalBlocks, List.mem_cons, List.not_mem_nil, or_false,
    exists_eq_or_imp, exists_eq_left, hwhole, hmiddle, hlast]
  simp only [isLoopback, isPrivate, Bool.or_eq_true, Bool.and_eq_true, beq_iff_eq,
    decide_eq_true_eq, and_assoc, or_assoc]

end Ipv4

end CloudGate.Net
