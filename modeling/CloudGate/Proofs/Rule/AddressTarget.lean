import CloudGate.Proofs.Net.Ipv6
import CloudGate.Proofs.Verdict
import CloudGate.Rule.DnsRecord

/-!
The targets of address records.

* `ipv4Target_decided`: the target of an A record is a public IPv4 address in its written form, and
  the kind of a violation tells whether the target is missing, no address or an internal address.
* `ipv6Target_decided`: the target of an AAAA record is any spelling of an IPv6 address that does
  not stand for an IPv4 address.
-/

namespace CloudGate.Rule

open Net (Ipv4)
open Net.Ipv6 (Denotes IsMapped)

/-! ## A records -/

theorem ipv4Target_kind (s : String) : (ipv4Target s).kind? =
    if s = "" then some .required
    else
      match Ipv4.parse? s.toList with
      | none => some .invalidAddress
      | some ip =>
        if ip.isLoopback || ip.isPrivate then some .privateAddressRejected else none := by
  unfold ipv4Target
  by_cases hs : s = ""
  · subst hs
    rfl
  · have hempty : s.isEmpty = false := by simpa [String.isEmpty_iff] using hs
    rw [hempty, if_neg Bool.false_ne_true, if_neg hs]
    cases Ipv4.parse? s.toList with
    | none => rfl
    | some ip =>
      rw [Verdict.kind?_require]
      show _ = if ip.isLoopback || ip.isPrivate then _ else _
      cases ip.isLoopback || ip.isPrivate <;> rfl

/-- A text is the address that is read from it. -/
theorem exists_address_iff {s : String} {P : Ipv4 → Prop} :
    (∃ ip : Ipv4, ip.IsValid ∧ s = ip.text ∧ P ip) ↔
      ∃ ip, Ipv4.parse? s.toList = some ip ∧ P ip := by
  simp only [Ipv4.parse?_eq_some, String.toList_inj, and_assoc]

/-- The target of an A record is an address outside the internal blocks, in its written form. -/
theorem ipv4Target_decided (s : String) :
    (ipv4Target s = .ok () ↔ ∃ ip : Ipv4, ip.IsValid ∧ s = ip.text ∧ ¬ ip.IsInternal) ∧
      ((ipv4Target s).kind? = some .privateAddressRejected ↔
        ∃ ip : Ipv4, ip.IsValid ∧ s = ip.text ∧ ip.IsInternal) ∧
      ((ipv4Target s).kind? = some .required ↔ s = "") ∧
      ((ipv4Target s).kind? = some .invalidAddress ↔
        s ≠ "" ∧ ¬ ∃ ip : Ipv4, ip.IsValid ∧ s = ip.text) := by
  have hread : (∃ ip : Ipv4, ip.IsValid ∧ s = ip.text) ↔ ∃ ip, Ipv4.parse? s.toList = some ip := by
    simpa using exists_address_iff (s := s) (P := fun _ => True)
  rw [← Verdict.kind?_eq_none, ipv4Target_kind, exists_address_iff, exists_address_iff, hread]
  by_cases hs : s = ""
  · subst hs
    have hnone : Ipv4.parse? [] = none := rfl
    simp [hnone]
  · rw [if_neg hs]
    cases hparse : Ipv4.parse? s.toList with
    | none => simp [hs]
    | some ip =>
      have hinternal := Ipv4.isInternal_iff (Ipv4.parse?_eq_some.mp hparse).1
      by_cases hblock : ip.IsInternal
      · simp [hinternal.mpr hblock, hblock, hs]
      · have hpublic : (ip.isLoopback || ip.isPrivate) = false := by
          rw [← Bool.not_eq_true, hinternal]
          exact hblock
        simp [hpublic, hblock, hs]

/-- The blocks end where they should, and only the written form is read. -/
example : ["172.15.255.255", "172.16.0.0", "172.31.255.255", "172.32.0.0", "010.0.0.1", "1.2.3.4 ",
    ""].map (fun s => (ipv4Target s).kind?) =
    [none, some .privateAddressRejected, some .privateAddressRejected, none, some .invalidAddress,
      some .invalidAddress, some .required] := by decide +kernel

/-! ## AAAA records -/

theorem ipv6Target_kind (s : String) : (ipv6Target s).kind? =
    if s = "" then some .required
    else
      match Net.Ipv6.parse? s.toList with
      | none => some .invalidAddress
      | some groups => if Net.Ipv6.isMappedIpv4 groups then some .invalidAddress else none := by
  unfold ipv6Target
  by_cases hs : s = ""
  · subst hs
    rfl
  · have hempty : s.isEmpty = false := by simpa [String.isEmpty_iff] using hs
    rw [hempty, if_neg Bool.false_ne_true, if_neg hs]
    cases hfour : Ipv4.parse? s.toList with
    | some ip =>
      rw [Net.Ipv6.parse?_of_ipv4 hfour]
      rfl
    | none =>
      cases Net.Ipv6.parse? s.toList with
      | none => rfl
      | some groups =>
        simp only [Option.isSome_none, Bool.false_eq_true, if_false]
        cases Net.Ipv6.isMappedIpv4 groups <;> rfl

/-- The spelling does not matter, but for the address that it is one of. -/
theorem ipv6Target_of_denotes {s : String} {address : Nat} (h : Denotes s address) :
    (ipv6Target s).kind? = if IsMapped address then some .invalidAddress else none := by
  obtain ⟨groups, hspells, rfl⟩ := h
  have hs : s ≠ "" := by
    rintro rfl
    exact List.not_mem_nil hspells.colon_mem
  rw [ipv6Target_kind, if_neg hs, Net.Ipv6.parse?_eq_some.mpr hspells]
  simp only [Net.Ipv6.isMappedIpv4_iff hspells.length_eq hspells.lt]

theorem ipv6Target_of_not_denotes {s : String} (hs : s ≠ "")
    (h : ¬ ∃ address, Denotes s address) : (ipv6Target s).kind? = some .invalidAddress := by
  have hparse : Net.Ipv6.parse? s.toList = none := by
    rw [Option.eq_none_iff_forall_ne_some]
    intro groups hgroups
    exact h ⟨_, Net.Ipv6.denotes_iff.mpr ⟨groups, hgroups, rfl⟩⟩
  rw [ipv6Target_kind, if_neg hs, hparse]

theorem ipv6Target_of_ipv4 {ip : Ipv4} (h : ip.IsValid) :
    (ipv6Target ip.text).kind? = some .invalidAddress := by
  have hparse := Net.Ipv6.parse?_of_ipv4 (Ipv4.parse?_eq_some.mpr ⟨h, rfl⟩)
  have hs : ip.text ≠ "" := by
    intro hempty
    have hmem := ip.point_mem_text
    rw [hempty] at hmem
    exact List.not_mem_nil hmem
  rw [ipv6Target_kind, if_neg hs, hparse]

theorem ipv6Target_kind_cases (s : String) :
    (s = "" ∧ (ipv6Target s).kind? = some .required) ∨
      (s ≠ "" ∧ ((ipv6Target s).kind? = none ∨ (ipv6Target s).kind? = some .invalidAddress)) := by
  rw [ipv6Target_kind]
  by_cases hs : s = ""
  · exact Or.inl ⟨hs, if_pos hs⟩
  · rw [if_neg hs]
    refine Or.inr ⟨hs, ?_⟩
    cases Net.Ipv6.parse? s.toList with
    | none => simp
    | some groups => cases Net.Ipv6.isMappedIpv4 groups <;> simp

/-- The target of an AAAA record is a spelling of an address outside the block of the IPv4
addresses. All spellings of one address are judged alike. -/
theorem ipv6Target_decided (s : String) :
    (ipv6Target s = .ok () ↔ ∃ address, Denotes s address ∧ ¬ IsMapped address) ∧
      (∀ address, Denotes s address → address < 2 ^ 128 ∧
        (ipv6Target s).kind? = if IsMapped address then some .invalidAddress else none) ∧
      ((ipv6Target s).kind? = some .required ↔ s = "") ∧
      ((ipv6Target s).kind? = some .invalidAddress ↔ s ≠ "" ∧ ipv6Target s ≠ .ok ()) ∧
      ∀ ip : Ipv4, ip.IsValid → s = ip.text → (ipv6Target s).kind? = some .invalidAddress := by
  simp only [ne_eq, ← Verdict.kind?_eq_none]
  refine ⟨?_, fun address h => ⟨h.lt, ipv6Target_of_denotes h⟩, ?_, ?_, ?_⟩
  · constructor
    · intro hpass
      have hs : s ≠ "" := by
        rintro rfl
        contradiction
      by_cases hdenotes : ∃ address, Denotes s address
      · obtain ⟨address, h⟩ := hdenotes
        refine ⟨address, h, fun hmapped => ?_⟩
        rw [ipv6Target_of_denotes h, if_pos hmapped] at hpass
        contradiction
      · rw [ipv6Target_of_not_denotes hs hdenotes] at hpass
        contradiction
    · rintro ⟨address, h, hplain⟩
      rw [ipv6Target_of_denotes h, if_neg hplain]
  · rcases ipv6Target_kind_cases s with ⟨rfl, hkind⟩ | ⟨hs, hkind | hkind⟩ <;> simp_all
  · rcases ipv6Target_kind_cases s with ⟨rfl, hkind⟩ | ⟨hs, hkind | hkind⟩ <;> simp_all
  · rintro ip hvalid rfl
    exact ipv6Target_of_ipv4 hvalid

/-- Two spellings of one mapped address, and one of a plain address. -/
theorem ipv6Target_decided_mapped :
    (Denotes "::FFFF:8.8.8.8" 0xFFFF08080808 ∧ Denotes "0:0:0:0:0:ffff:0808:808" 0xFFFF08080808 ∧
        IsMapped 0xFFFF08080808 ∧
        (ipv6Target "::FFFF:8.8.8.8").kind? = some .invalidAddress ∧
        (ipv6Target "0:0:0:0:0:ffff:0808:808").kind? = some .invalidAddress) ∧
      (Denotes "2001:db8::1" 0x20010db8000000000000000000000001 ∧
        ¬ IsMapped 0x20010db8000000000000000000000001 ∧ ipv6Target "2001:db8::1" = .ok ()) ∧
      (Ipv4.IsValid ⟨8, 8, 8, 8⟩ ∧ "8.8.8.8" = Ipv4.text ⟨8, 8, 8, 8⟩ ∧
        (ipv6Target "8.8.8.8").kind? = some .invalidAddress) := by
  have hshort : Denotes "::FFFF:8.8.8.8" 0xFFFF08080808 :=
    Net.Ipv6.denotes_iff.mpr
      ⟨[0, 0, 0, 0, 0, 0xFFFF, 0x808, 0x808], by decide +kernel, by decide +kernel⟩
  have hlong : Denotes "0:0:0:0:0:ffff:0808:808" 0xFFFF08080808 :=
    Net.Ipv6.denotes_iff.mpr
      ⟨[0, 0, 0, 0, 0, 0xFFFF, 0x808, 0x808], by decide +kernel, by decide +kernel⟩
  have hplain : Denotes "2001:db8::1" 0x20010db8000000000000000000000001 :=
    Net.Ipv6.denotes_iff.mpr
      ⟨[0x2001, 0xdb8, 0, 0, 0, 0, 0, 1], by decide +kernel, by decide +kernel⟩
  have hmapped : IsMapped 0xFFFF08080808 := by decide +kernel
  have hfree : ¬ IsMapped 0x20010db8000000000000000000000001 := by decide +kernel
  have hvalid : Ipv4.IsValid ⟨8, 8, 8, 8⟩ := ⟨by decide, by decide, by decide, by decide⟩
  have htext : "8.8.8.8" = Ipv4.text ⟨8, 8, 8, 8⟩ := by decide +kernel
  refine ⟨⟨hshort, hlong, hmapped, ?_, ?_⟩, ⟨hplain, hfree, ?_⟩, ⟨hvalid, htext, ?_⟩⟩
  · have h := ((ipv6Target_decided "::FFFF:8.8.8.8").2.1 _ hshort).2
    rwa [if_pos hmapped] at h
  · have h := ((ipv6Target_decided "0:0:0:0:0:ffff:0808:808").2.1 _ hlong).2
    rwa [if_pos hmapped] at h
  · exact (ipv6Target_decided "2001:db8::1").1.mpr ⟨_, hplain, hfree⟩
  · exact (ipv6Target_decided "8.8.8.8").2.2.2.2 _ hvalid htext

end CloudGate.Rule
