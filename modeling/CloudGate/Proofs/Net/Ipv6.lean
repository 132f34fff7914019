import CloudGate.Net.Ipv6
import CloudGate.Proofs.Net.Ipv4
import CloudGate.Proofs.Text.Percent
import Mathlib.Data.Nat.Digits.Defs

/-!
IPv6 addresses: the many spellings of one address, and the block of those that stand for IPv4
addresses.

* `group?_eq_some`: a group is one to four hexadecimal digits, in either case.
* `groups?_eq_some`: groups are read piece by piece, and an IPv4 address only at the end.
* `splitGap?_intercalate`: the gap is where two colons meet, and pieces do not bring about another.
* `parse?_eq_some`: so what is read as an address is exactly a spelling of it.
* `isMappedIpv4_iff`: the test of six groups finds the addresses of one block.
-/

namespace CloudGate.Net

/-! ## Digits -/

theorem hexDigitValue?_eq_some {c : Char} {d : Nat} :
    hexDigitValue? c = some d ↔ d < 16 ∧ c.toLower = Nat.digitChar d := by
  have hvalue : ∀ c, Text.isAscii c = true →
      (∀ d < 16, hexDigitValue? c = some d ↔ c.toLower = Nat.digitChar d) ∧
        ∀ d ∈ hexDigitValue? c, d < 16 :=
    fun c => Text.forall_ascii (P := fun c =>
      (∀ d < 16, hexDigitValue? c = some d ↔ c.toLower = Nat.digitChar d) ∧
        ∀ d ∈ hexDigitValue? c, d < 16) (by decide +kernel)
  have hdigit : ∀ d < 16, Text.isAscii (Nat.digitChar d) = true := by decide
  constructor
  · intro h
    have hc : Text.isAscii c = true := Text.isAscii_of_hexDigit (Option.isSome_of_eq_some h)
    have hd := (hvalue c hc).2 d h
    exact ⟨hd, ((hvalue c hc).1 d hd).mp h⟩
  · rintro ⟨hd, hlower⟩
    have hc : Text.isAscii c = true := by rw [← Text.isAscii_toLower, hlower, hdigit d hd]
    exact ((hvalue c hc).1 d hd).mpr hlower

/-- Digits behind a number that has been read. -/
theorem foldlM_hexDigit_eq_some {cs : List Char} {m n : Nat} :
    cs.foldlM (fun n c => (hexDigitValue? c).map (n * 16 + ·)) m = some n ↔
      ∃ digits : List Nat, (∀ d ∈ digits, d < 16) ∧
        cs.map Char.toLower = digits.map Nat.digitChar ∧
        digits.foldl (fun n d => n * 16 + d) m = n := by
  induction cs generalizing m with
  | nil => simp [eq_comm]
  | cons c rest ih =>
    simp only [List.foldlM_cons, Option.bind_eq_bind, Option.bind_eq_some_iff,
      Option.map_eq_some_iff, hexDigitValue?_eq_some, List.map_cons]
    constructor
    · rintro ⟨_, ⟨d, ⟨hd, hc⟩, rfl⟩, h⟩
      obtain ⟨digits, hdigits, hrest, hn⟩ := ih.mp h
      exact ⟨d :: digits, List.forall_mem_cons.mpr ⟨hd, hdigits⟩,
        by rw [hc, hrest, List.map_cons], hn⟩
    · rintro ⟨digits, hdigits, hcs, hn⟩
      cases digits with
      | nil => simp at hcs
      | cons d digits =>
        obtain ⟨hd, hdigits⟩ := List.forall_mem_cons.mp hdigits
        obtain ⟨hc, hrest⟩ := List.cons.inj hcs
        exact ⟨m * 16 + d, ⟨d, ⟨hd, hc⟩, rfl⟩, ih.mpr ⟨digits, hdigits, hrest, hn⟩⟩

theorem ofDigits_reverse (b : Nat) (digits : List Nat) :
    Nat.ofDigits b digits.reverse = digits.foldl (fun n d => n * b + d) 0 := by
  rw [Nat.ofDigits_eq_foldr, List.foldr_reverse]
  simp only [Nat.cast_id, Nat.add_comm, Nat.mul_comm b]

/-! ## Groups -/

/-- A group in one to four hexadecimal digits, in either case. Zeros may stand in front. -/
def WritesGroup (n : Nat) (cs : List Char) : Prop :=
  ∃ digits : List Nat, 1 ≤ digits.length ∧ digits.length ≤ 4 ∧ (∀ d ∈ digits, d < 16) ∧
    cs.map Char.toLower = digits.map Nat.digitChar ∧ Nat.ofDigits 16 digits.reverse = n

theorem group?_eq_some {cs : List Char} {n : Nat} : group? cs = some n ↔ WritesGroup n cs := by
  have hlength : ∀ digits : List Nat, cs.map Char.toLower = digits.map Nat.digitChar →
      cs.length = digits.length := by
    intro digits h
    simpa using congrArg List.length h
  unfold group? WritesGroup
  simp only [ofDigits_reverse]
  constructor
  · intro h
    split at h
    · rename_i hcount
      obtain ⟨digits, hdigits, hcs, hn⟩ := foldlM_hexDigit_eq_some.mp h
      have hsame := hlength digits hcs
      have hleast : cs.length ≠ 0 := by
        intro hzero
        simp [List.eq_nil_of_length_eq_zero hzero] at hcount
      have hmost : cs.length ≤ 4 := by
        simp only [Bool.and_eq_true, decide_eq_true_eq] at hcount
        exact hcount.2
      exact ⟨digits, by omega, by omega, hdigits, hcs, hn⟩
    · contradiction
  · rintro ⟨digits, hleast, hmost, hdigits, hcs, hn⟩
    have hsame := hlength digits hcs
    have hcount : (!cs.isEmpty && decide (cs.length ≤ 4)) = true := by
      cases cs with
      | nil =>
        simp only [List.length_nil] at hsame
        omega
      | cons c rest => simpa [hsame] using hmost
    rw [if_pos hcount]
    exact foldlM_hexDigit_eq_some.mpr ⟨digits, hdigits, hcs, hn⟩

namespace WritesGroup

variable {n : Nat} {cs : List Char}

theorem lt (h : WritesGroup n cs) : n < 65536 := by
  obtain ⟨digits, -, hmost, hdigits, -, rfl⟩ := h
  have hbelow := Nat.ofDigits_lt_base_pow_length (l := digits.reverse) (by decide : 1 < 16)
    fun d hd => hdigits d (List.mem_reverse.mp hd)
  have hpower : 16 ^ digits.reverse.length ≤ 16 ^ 4 :=
    Nat.pow_le_pow_right (by decide) (by simpa using hmost)
  omega

theorem not_mem (h : WritesGroup n cs) {c : Char} (hc : ∀ d < 16, c.toLower ≠ Nat.digitChar d) :
    c ∉ cs := by
  obtain ⟨digits, -, -, hdigits, hcs, -⟩ := h
  intro hmem
  have hlower : c.toLower ∈ digits.map Nat.digitChar := hcs ▸ List.mem_map_of_mem hmem
  obtain ⟨d, hd, heq⟩ := List.mem_map.mp hlower
  exact hc d (hdigits d hd) heq.symm

theorem ne_nil (h : WritesGroup n cs) : cs ≠ [] := by
  obtain ⟨digits, hleast, -, -, hcs, -⟩ := h
  rintro rfl
  have hnone : digits = [] := by simpa [eq_comm] using hcs
  simp [hnone] at hleast

end WritesGroup

theorem group?_text (ip : Ipv4) : group? ip.text.toList = none := by
  rw [Option.eq_none_iff_forall_ne_some]
  intro n h
  exact (group?_eq_some.mp h).not_mem (by decide) ip.point_mem_text

namespace Ipv6

/-! ## Pieces -/

/-- The two groups that an IPv4 address stands for. -/
def embed (ip : Ipv4) : List Nat := [ip.a * 256 + ip.b, ip.c * 256 + ip.d]

/-- Groups, and the pieces between colons that they are written in. Where `dotted` allows it, the
last two groups may be written as an IPv4 address. -/
inductive Pieces (dotted : Bool) : List Nat → List (List Char) → Prop
  | nil : Pieces dotted [] []
  | quad {ip : Ipv4} (hallowed : dotted = true) (hvalid : ip.IsValid) :
    Pieces dotted (embed ip) [ip.text.toList]
  | group {n : Nat} {piece : List Char} {groups : List Nat} {pieces : List (List Char)}
    (hwrites : WritesGroup n piece) (hrest : Pieces dotted groups pieces) :
    Pieces dotted (n :: groups) (piece :: pieces)

theorem groups?_eq_some {dotted : Bool} {pieces : List (List Char)} {groups : List Nat} :
    groups? dotted pieces = some groups ↔ Pieces dotted groups pieces := by
  constructor
  · intro h
    fun_induction groups? dotted pieces generalizing groups with
    | case1 =>
      obtain rfl := Option.some.inj h
      exact .nil
    | case2 last g hg =>
      obtain rfl := Option.some.inj h
      exact .group (group?_eq_some.mp hg) .nil
    | case3 last hnone hdotted =>
      obtain ⟨ip, hip, rfl⟩ := Option.map_eq_some_iff.mp h
      obtain ⟨hvalid, rfl⟩ := Ipv4.parse?_eq_some.mp hip
      exact .quad hdotted hvalid
    | case4 => contradiction
    | case5 first rest hmore ih =>
      simp only [Option.bind_eq_bind, Option.bind_eq_some_iff, Option.pure_def,
        Option.some.injEq] at h
      obtain ⟨n, hn, more, hrest, rfl⟩ := h
      exact .group (group?_eq_some.mp hn) (ih hrest)
  · intro h
    induction h with
    | nil => rfl
    | quad hallowed hvalid =>
      subst hallowed
      rw [groups?, group?_text, Ipv4.parse?_eq_some.mpr ⟨hvalid, rfl⟩]
      rfl
    | @group n piece groups pieces hwrites hrest ih =>
      have hn := group?_eq_some.mpr hwrites
      -- The last piece is read by a case of its own.
      cases pieces with
      | nil =>
        cases hrest
        rw [groups?, hn]
      | cons second more =>
        rw [groups?, hn, ih]
        · rfl
        · simp

namespace Pieces

variable {dotted : Bool} {groups : List Nat} {pieces : List (List Char)}

theorem lt (h : Pieces dotted groups pieces) : ∀ g ∈ groups, g < 65536 := by
  induction h with
  | nil => simp
  | @quad ip hallowed hvalid =>
    obtain ⟨ha, hb, hc, hd⟩ := hvalid
    simp only [embed, List.forall_mem_cons]
    exact ⟨by omega, by omega, List.forall_mem_nil _⟩
  | group hwrites hrest ih => exact List.forall_mem_cons.mpr ⟨hwrites.lt, ih⟩

theorem plain (h : Pieces dotted groups pieces) :
    ∀ piece ∈ pieces, piece ≠ [] ∧ ':' ∉ piece := by
  induction h with
  | nil => simp
  | @quad ip hallowed hvalid =>
    intro piece hpiece
    rw [List.mem_singleton] at hpiece
    subst hpiece
    refine ⟨List.ne_nil_of_mem ip.point_mem_text, fun hmem => ?_⟩
    rcases Ipv4.text_char hmem with hdigit | hpoint
    · exact absurd hdigit (by decide)
    · exact absurd hpoint (by decide)
  | group hwrites hrest ih =>
    exact List.forall_mem_cons.mpr ⟨⟨hwrites.ne_nil, hwrites.not_mem (by decide)⟩, ih⟩

theorem length_le (h : Pieces dotted groups pieces) : groups.length ≤ pieces.length + 1 := by
  induction h with
  | nil => simp
  | quad hallowed hvalid => simp [embed]
  | group hwrites hrest ih => simpa using ih

end Pieces

theorem part?_eq_some {dotted : Bool} {cs : List Char} {groups : List Nat} :
    part? dotted cs = some groups ↔
      ∃ pieces, Pieces dotted groups pieces ∧ cs = [':'].intercalate pieces := by
  constructor
  · intro h
    unfold part? at h
    split at h
    · rename_i hempty
      obtain rfl := Option.some.inj h
      exact ⟨[], .nil, List.isEmpty_iff.mp hempty⟩
    · exact ⟨_, groups?_eq_some.mp h, (Text.intercalate_splitBy ':' cs).symm⟩
  · rintro ⟨pieces, h, rfl⟩
    cases pieces with
    | nil =>
      cases h
      rfl
    | cons first more =>
      have hplain := h.plain
      have hsplit := Text.splitBy_intercalate (List.cons_ne_nil first more)
        fun piece hpiece => (hplain piece hpiece).2
      have hempty : ([':'].intercalate (first :: more)).isEmpty = false := by
        have hfirst := (hplain first (List.mem_cons_self ..)).1
        cases more <;> simp [List.intercalate_cons_cons, hfirst]
      rw [part?, hempty, hsplit]
      exact groups?_eq_some.mpr h

/-! ## The gap -/

theorem eq_of_splitGap? {cs before after : List Char} (h : splitGap? cs = some (before, after)) :
    cs = before ++ ':' :: ':' :: after := by
  fun_induction splitGap? cs generalizing before with
  | case1 rest =>
    obtain ⟨rfl, rfl⟩ := Prod.mk.inj (Option.some.inj h)
    rfl
  | case2 c rest hother ih =>
    obtain ⟨⟨before', after'⟩, hrest, hsome⟩ := Option.map_eq_some_iff.mp h
    obtain ⟨rfl, rfl⟩ := Prod.mk.inj hsome
    rw [ih hrest, List.cons_append]
  | case3 => contradiction

theorem splitGap?_cons {c : Char} {rest : List Char} (h : c ≠ ':' ∨ rest.head? ≠ some ':') :
    splitGap? (c :: rest) =
      (splitGap? rest).map fun (before, after) => (c :: before, after) := by
  rw [splitGap?]
  rintro more rfl rfl
  simp at h

theorem splitGap?_append {piece : List Char} (h : ':' ∉ piece) (rest : List Char) :
    splitGap? (piece ++ rest) =
      (splitGap? rest).map fun (before, after) => (piece ++ before, after) := by
  induction piece with
  | nil => simp
  | cons c more ih =>
    rw [List.mem_cons, not_or] at h
    rw [List.cons_append, splitGap?_cons (Or.inl (Ne.symm h.1)), ih h.2, Option.map_map]
    rfl

/-- There is no gap among pieces that have something in them. -/
theorem splitGap?_intercalate {pieces : List (List Char)}
    (h : ∀ piece ∈ pieces, piece ≠ [] ∧ ':' ∉ piece) (rest : List Char) :
    splitGap? ([':'].intercalate pieces ++ rest) =
      (splitGap? rest).map fun (before, after) => ([':'].intercalate pieces ++ before, after) := by
  induction pieces with
  | nil => simp
  | cons first more ih =>
    obtain ⟨⟨-, hfirst⟩, hmore⟩ := List.forall_mem_cons.mp h
    cases more with
    | nil => simpa using splitGap?_append hfirst rest
    | cons second more =>
      obtain ⟨⟨hsecond, hplain⟩, -⟩ := List.forall_mem_cons.mp hmore
      -- Behind the colon stands the first character of the second piece.
      have hhead : ([':'].intercalate (second :: more) ++ rest).head? ≠ some ':' := by
        cases second with
        | nil => contradiction
        | cons c cs =>
          rw [List.mem_cons, not_or] at hplain
          cases more <;> simpa [List.intercalate_cons_cons] using Ne.symm hplain.1
      rw [List.intercalate_cons_cons, List.append_assoc, List.append_assoc,
        splitGap?_append hfirst, List.singleton_append, splitGap?_cons (Or.inr hhead), ih hmore,
        Option.map_map, Option.map_map]
      simp [Function.comp_def]

/-! ## Spellings -/

/-- The spellings of eight groups: all of them, with colons between them, or all but one run of
zeros, with a gap in its place. -/
inductive Spells : List Nat → List Char → Prop
  | full {groups : List Nat} {pieces : List (List Char)} (hpieces : Pieces true groups pieces)
    (hcount : groups.length = 8) : Spells groups ([':'].intercalate pieces)
  | gap {front back : List Nat} {before after : List (List Char)} {zeros : Nat}
    (hfront : Pieces false front before) (hzeros : 1 ≤ zeros) (hback : Pieces true back after)
    (hcount : front.length + zeros + back.length = 8) :
    Spells (front ++ List.replicate zeros 0 ++ back)
      ([':'].intercalate before ++ ':' :: ':' :: [':'].intercalate after)

theorem parse?_eq_some {cs : List Char} {groups : List Nat} :
    parse? cs = some groups ↔ Spells groups cs := by
  constructor
  · intro h
    unfold parse? at h
    split at h
    · obtain ⟨given, hpart, hgiven⟩ := Option.bind_eq_some_iff.mp h
      obtain ⟨pieces, hpieces, rfl⟩ := part?_eq_some.mp hpart
      split at hgiven
      · rename_i hcount
        obtain rfl := Option.some.inj hgiven
        exact .full hpieces hcount
      · contradiction
    · rename_i before after hgap
      obtain ⟨front, hbefore, hrest⟩ := Option.bind_eq_some_iff.mp h
      obtain ⟨back, hafter, hgiven⟩ := Option.bind_eq_some_iff.mp hrest
      obtain ⟨beforePieces, hfront, rfl⟩ := part?_eq_some.mp hbefore
      obtain ⟨afterPieces, hback, rfl⟩ := part?_eq_some.mp hafter
      simp only at hgiven
      split at hgiven
      · obtain rfl := Option.some.inj hgiven
        rw [eq_of_splitGap? hgap]
        exact .gap hfront (by omega) hback (by omega)
      · contradiction
  · intro h
    cases h with
    | @full groups pieces hpieces hcount =>
      have hgap : splitGap? ([':'].intercalate pieces) = none := by
        simpa [splitGap?] using splitGap?_intercalate hpieces.plain []
      simp [parse?, hgap, part?_eq_some.mpr ⟨pieces, hpieces, rfl⟩, hcount]
    | @gap front back before after zeros hfront hzeros hback hcount =>
      have hgap : splitGap? ([':'].intercalate before ++ ':' :: ':' :: [':'].intercalate after) =
          some ([':'].intercalate before, [':'].intercalate after) := by
        simpa [splitGap?] using
          splitGap?_intercalate hfront.plain (':' :: ':' :: [':'].intercalate after)
      have hmost : front.length + back.length ≤ 7 := by omega
      have hrest : 8 - (front.length + back.length) = zeros := by omega
      simp [parse?, hgap, part?_eq_some.mpr ⟨before, hfront, rfl⟩,
        part?_eq_some.mpr ⟨after, hback, rfl⟩, hmost, hrest]

namespace Spells

variable {groups : List Nat} {cs : List Char}

theorem length_eq (h : Spells groups cs) : groups.length = 8 := by
  cases h with
  | full hpieces hcount => exact hcount
  | gap hfront hzeros hback hcount => simpa [Nat.add_assoc] using hcount

theorem lt (h : Spells groups cs) : ∀ g ∈ groups, g < 65536 := by
  cases h with
  | full hpieces hcount => exact hpieces.lt
  | gap hfront hzeros hback hcount =>
    intro g hg
    rw [List.mem_append, List.mem_append] at hg
    rcases hg with (hg | hg) | hg
    · exact hfront.lt g hg
    · rw [List.eq_of_mem_replicate hg]
      decide
    · exact hback.lt g hg

theorem colon_mem (h : Spells groups cs) : ':' ∈ cs := by
  cases h with
  | @full groups pieces hpieces hcount =>
    have hmany := hpieces.length_le
    rw [hcount] at hmany
    match pieces with
    | [] | [_] => simp at hmany
    | first :: second :: more => simp [List.intercalate_cons_cons]
  | gap hfront hzeros hback hcount => simp

end Spells

/-- An IPv4 address alone is no IPv6 address. -/
theorem parse?_of_ipv4 {cs : List Char} {ip : Ipv4} (h : Ipv4.parse? cs = some ip) :
    parse? cs = none := by
  obtain ⟨-, rfl⟩ := Ipv4.parse?_eq_some.mp h
  rw [Option.eq_none_iff_forall_ne_some]
  intro groups hgroups
  rcases Ipv4.text_char (parse?_eq_some.mp hgroups).colon_mem with hdigit | hpoint
  · exact absurd hdigit (by decide)
  · exact absurd hpoint (by decide)

/-! ## Addresses -/

/-- The 128 bits of an address as a number. -/
def bits (groups : List Nat) : Nat := Nat.ofDigits 65536 groups.reverse

/-- The text is a spelling of the address. -/
def Denotes (s : String) (address : Nat) : Prop :=
  ∃ groups, Spells groups s.toList ∧ bits groups = address

theorem denotes_iff {s : String} {address : Nat} :
    Denotes s address ↔ ∃ groups, parse? s.toList = some groups ∧ bits groups = address := by
  simp only [Denotes, parse?_eq_some]

theorem Denotes.lt {s : String} {address : Nat} (h : Denotes s address) : address < 2 ^ 128 := by
  obtain ⟨groups, hspells, rfl⟩ := h
  have hbelow := Nat.ofDigits_lt_base_pow_length (l := groups.reverse) (by decide : 1 < 65536)
    fun g hg => hspells.lt g (List.mem_reverse.mp hg)
  rw [List.length_reverse, hspells.length_eq] at hbelow
  exact hbelow

/-- `::ffff:0:0/96`, the addresses that begin with the first 96 bits of `::ffff:0:0`. -/
def IsMapped (address : Nat) : Prop :=
  address >>> (128 - 96) = bits [0, 0, 0, 0, 0, 0xFFFF, 0, 0] >>> (128 - 96)

instance (address : Nat) : Decidable (IsMapped address) := inferInstanceAs (Decidable (_ = _))

theorem isMappedIpv4_iff {groups : List Nat} (hcount : groups.length = 8)
    (hgroups : ∀ g ∈ groups, g < 65536) : isMappedIpv4 groups = true ↔ IsMapped (bits groups) := by
  obtain ⟨a, b, c, d, e, f, g, h, rfl⟩ :
      ∃ a b c d e f g h, groups = [a, b, c, d, e, f, g, h] := by
    match groups, hcount with
    | [a, b, c, d, e, f, g, h], _ => exact ⟨a, b, c, d, e, f, g, h, rfl⟩
  simp only [List.forall_mem_cons] at hgroups
  obtain ⟨ha, hb, hc, hd, he, hf, hg, hh, -⟩ := hgroups
  have hmapped : isMappedIpv4 [a, b, c, d, e, f, g, h] = true ↔
      a = 0 ∧ b = 0 ∧ c = 0 ∧ d = 0 ∧ e = 0 ∧ f = 0xFFFF := by
    simp [isMappedIpv4]
  rw [hmapped]
  simp only [IsMapped, bits, ofDigits_reverse, List.foldl_cons, List.foldl_nil]
  omega

end Ipv6

end CloudGate.Net
