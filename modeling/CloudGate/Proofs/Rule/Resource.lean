import CloudGate.Proofs.Text.Fold
import CloudGate.Proofs.Verdict
import CloudGate.Rule.DnsRecord
import CloudGate.Rule.Resource

/-!
The values that the rules for resources and buckets accept, each rule with an exact description.

* `region_eq_ok`, `bucketLabel_eq_ok`: lowercase labels within their bounds.
* `resourceLabel_eq_ok`: labels in any case, with a letter or digit in front.
* `firewallPolicy_eq_ok`, `presignedMethod_eq_ok`: words in any case.
-/

namespace CloudGate.Rule

/-- A lowercase label: letters, digits and hyphens, with no hyphen at an end. -/
structure Slug (least most : Nat) (s : String) : Prop where
  long : least ≤ s.length
  short : s.length ≤ most
  characters : ∀ c ∈ s.toList, c.isLower ∨ c.isDigit ∨ c = '-'
  first : s.toList.head? ≠ some '-'
  last : s.toList.getLast? ≠ some '-'

abbrev RegionName := Slug 1 32

abbrev BucketName := Slug 3 63

structure ResourceName (s : String) : Prop where
  long : 3 ≤ s.length
  short : s.length ≤ 64
  characters : ∀ c ∈ s.toList, c.isAlphanum ∨ c = '-' ∨ c = '_' ∨ c = '.'
  first : ∃ c, s.toList.head? = some c ∧ c.isAlphanum

/-! ## Labels -/

theorem isEmpty_iff_length (s : String) : s.isEmpty = true ↔ s.length = 0 := by
  rw [String.isEmpty_iff, ← String.length_toList, List.length_eq_zero_iff, String.toList_eq_nil_iff]

theorem isSlugChar_iff (c : Char) : isSlugChar c = true ↔ c.isLower ∨ c.isDigit ∨ c = '-' := by
  simp only [isSlugChar, Bool.or_eq_true, beq_iff_eq, or_assoc]

theorem isLabelChar_iff (c : Char) :
    isLabelChar c = true ↔ c.isAlphanum ∨ c = '-' ∨ c = '_' ∨ c = '.' := by
  simp only [isLabelChar, Bool.or_eq_true, beq_iff_eq, or_assoc]

theorem not_touchesHyphen_iff (cs : List Char) :
    (!touchesHyphen cs) = true ↔ cs.head? ≠ some '-' ∧ cs.getLast? ≠ some '-' := by
  simp only [touchesHyphen, Bool.not_or, Bool.and_eq_true, Bool.not_eq_true', beq_eq_false_iff_ne]

/-- A rule that names the first bad character passes if there is none. -/
theorem find?_not_eq_none {p : Char → Bool} {cs : List Char} :
    (cs.find? fun c => !p c) = none ↔ ∀ c ∈ cs, p c = true := by
  simp only [List.find?_eq_none, Bool.not_eq_true', Bool.not_eq_false]

theorem slug_iff (least most : Nat) (s : String) :
    Slug least most s ↔ least ≤ s.length ∧ s.length ≤ most ∧
      (∀ c ∈ s.toList, isSlugChar c = true) ∧ (!touchesHyphen s.toList) = true := by
  simp only [isSlugChar_iff, not_touchesHyphen_iff]
  exact ⟨fun ⟨h1, h2, h3, h4, h5⟩ => ⟨h1, h2, h3, h4, h5⟩,
    fun ⟨h1, h2, h3, h4, h5⟩ => ⟨h1, h2, h3, h4, h5⟩⟩

theorem region_eq_ok (field s : String) : region field s = .ok () ↔ RegionName s := by
  rw [RegionName, slug_iff, ← find?_not_eq_none]
  simp only [region, Verdict.fail, Verdict.reject_eq_ok, isEmpty_iff_length]
  unfold regionMaxLength
  cases s.toList.find? fun c => !isSlugChar c with
  | some bad => simp
  | none =>
    rw [Verdict.require_eq_ok]
    constructor
    · rintro ⟨hempty, hmost, hends⟩
      exact ⟨by omega, by omega, rfl, hends⟩
    · rintro ⟨hlong, hshort, -, hends⟩
      exact ⟨by omega, by omega, hends⟩

theorem bucketLabel_eq_ok (s : String) : bucketLabel s = .ok () ↔ BucketName s := by
  rw [BucketName, slug_iff, ← find?_not_eq_none]
  simp only [bucketLabel, Verdict.fail, Verdict.reject_eq_ok, isEmpty_iff_length]
  unfold bucketLabelMinLength bucketLabelMaxLength
  cases s.toList.find? fun c => !isSlugChar c with
  | some bad => simp
  | none =>
    rw [Verdict.require_eq_ok]
    constructor
    · rintro ⟨hempty, hleast, hmost, hends⟩
      exact ⟨by omega, by omega, rfl, hends⟩
    · rintro ⟨hlong, hshort, -, hends⟩
      exact ⟨by omega, by omega, by omega, hends⟩

theorem head?_any_iff {p : Char → Bool} (cs : List Char) :
    cs.head?.any p = true ↔ ∃ c, cs.head? = some c ∧ p c = true := by
  cases cs.head? <;> simp

theorem resourceLabel_eq_ok (s : String) : resourceLabel s = .ok () ↔ ResourceName s := by
  have hchars : (s.toList.find? fun c => !isLabelChar c) = none ↔
      ∀ c ∈ s.toList, c.isAlphanum ∨ c = '-' ∨ c = '_' ∨ c = '.' := by
    simp only [find?_not_eq_none, isLabelChar_iff]
  simp only [resourceLabel, Verdict.fail, Verdict.reject_eq_ok, isEmpty_iff_length]
  unfold resourceLabelMinLength resourceLabelMaxLength
  cases hfind : s.toList.find? fun c => !isLabelChar c with
  | some bad =>
    simp only [reduceCtorEq, and_false, false_iff]
    intro h
    rw [hchars.mpr h.characters] at hfind
    contradiction
  | none =>
    rw [Verdict.require_eq_ok, head?_any_iff]
    constructor
    · rintro ⟨hempty, hleast, hmost, hfirst⟩
      exact ⟨by omega, by omega, hchars.mp hfind, hfirst⟩
    · rintro ⟨hlong, hshort, -, hfirst⟩
      exact ⟨by omega, by omega, by omega, hfirst⟩

/-! ## Numbers -/

theorem resourceId_eq_ok (field : String) (id : Int) : resourceId field id = .ok () ↔ 0 < id := by
  simp only [resourceId, Verdict.require_eq_ok, decide_eq_true_eq]

theorem volumeSize_eq_ok (n : Int) : volumeSize n = .ok () ↔ 10 ≤ n ∧ n ≤ 10240 := by
  simp only [volumeSize, Verdict.fail, Verdict.reject_eq_ok, Verdict.require_eq_ok,
    decide_eq_true_eq, Int.not_lt]
  exact Iff.rfl

theorem presignedExpiry_eq_ok (n : Int) : presignedExpiry n = .ok () ↔ 1 ≤ n ∧ n ≤ 604800 := by
  simp only [presignedExpiry, Verdict.require_eq_ok, Bool.and_eq_true, decide_eq_true_eq]
  exact Iff.rfl

theorem ttl_eq_ok (n : Int) : ttl n = .ok () ↔ n = 0 ∨ (30 ≤ n ∧ n ≤ 604800) := by
  simp only [ttl, Verdict.require_eq_ok, Bool.or_eq_true, beq_iff_eq, Bool.and_eq_true,
    decide_eq_true_eq]
  exact Iff.rfl

/-! ## Words -/

theorem bucketAcl_eq_ok (s : String) : bucketAcl s = .ok () ↔ s ∈ bucketAcls := by
  rw [bucketAcl, Verdict.require_eq_ok, List.contains_iff_mem]

theorem firewallPolicy_eq_ok (s : String) :
    firewallPolicy s = .ok () ↔ ∃ word ∈ ["ACCEPT", "DROP"], Text.SameSpelling s word := by
  rw [firewallPolicy, Verdict.require_eq_ok, Text.pick?_isSome_iff (by decide), firewallPolicies]

theorem presignedMethod_eq_ok (s : String) :
    presignedMethod s = .ok () ↔ ∃ word ∈ ["GET", "PUT"], Text.SameSpelling s word := by
  rw [presignedMethod, Verdict.require_eq_ok, Text.pick?_isSome_iff (by decide), presignedMethods]

end CloudGate.Rule
