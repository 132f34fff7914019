import CloudGate.Proofs.Rule.DnsName
import CloudGate.Proofs.Rule.Resource
import CloudGate.Proofs.Text.Percent
import CloudGate.Proofs.Tool.Numeral
import CloudGate.Request.Prepared

/-!
Slugs, the lowercase labels of buckets and regions: which violation is told, and what other parts of
the program take them for.

* `bucketLabel_kind`, `region_kind`: of several faults, the first in a fixed order is told.
* `bucketName_iff`: the labels of buckets are those of a pattern.
* `Slug.isLabel`: a slug is a label of the domain name system.
* `fillArgument_slug`: a slug stands in a path as it is.
-/

namespace CloudGate

namespace Rule

/-! ## Faults -/

/-- What is wrong with a text of which a slug of `least` to `most` characters is expected. -/
def SlugFault (least most : Nat) (s : String) : Violation.Kind → Prop
  | .required => s = ""
  | .tooShort => s.length < least
  | .tooLong => most < s.length
  | .invalidCharacters => ∃ c ∈ s.toList, ¬ (c.isLower ∨ c.isDigit ∨ c = '-')
  | .invalidBoundary => s.toList.head? = some '-' ∨ s.toList.getLast? = some '-'
  | _ => False

instance (least most : Nat) (s : String) : DecidablePred (SlugFault least most s)
  | .required => inferInstanceAs (Decidable (s = ""))
  | .tooShort => inferInstanceAs (Decidable (s.length < least))
  | .tooLong => inferInstanceAs (Decidable (most < s.length))
  | .invalidCharacters => List.decidableBEx _ _
  | .invalidBoundary => inferInstanceAs (Decidable (_ ∨ _))
  | .invalidFormat | .invalidLength | .tooSmall | .tooLarge | .invalidEnumValue | .outOfRange
  | .invalidAddress | .privateAddressRejected | .missingCharacterClass | .gateNotConfirmed =>
    .isFalse id

theorem find?_fault_cons {fault : Violation.Kind → Prop} [DecidablePred fault]
    (kind : Violation.Kind) (rest : List Violation.Kind) :
    (kind :: rest).find? (fault ·) = if fault kind then some kind else rest.find? (fault ·) := by
  by_cases h : fault kind <;> simp [h]

/-- The part that rules for slugs have in common: the characters come before the ends. -/
theorem kind?_ends (least most : Nat) (s : String) (told : Char → String) (ends : String) :
    Verdict.kind? (match s.toList.find? fun c => !isSlugChar c with
      | some bad => .fail .invalidCharacters (told bad)
      | none => .require (!touchesHyphen s.toList) .invalidBoundary ends) =
    [.invalidCharacters, .invalidBoundary].find? (SlugFault least most s ·) := by
  have hcharacters : SlugFault least most s .invalidCharacters ↔
      (s.toList.find? fun c => !isSlugChar c) ≠ none := by
    rw [Ne, find?_not_eq_none]
    simp [SlugFault, isSlugChar_iff]
  have hends : SlugFault least most s .invalidBoundary ↔ ¬ (!touchesHyphen s.toList) = true := by
    rw [not_touchesHyphen_iff]
    simp only [SlugFault]
    tauto
  rw [find?_fault_cons, find?_fault_cons]
  simp only [hcharacters, hends]
  cases s.toList.find? fun c => !isSlugChar c with
  | some bad => simp [Verdict.fail, Verdict.kind?]
  | none =>
    rw [Verdict.kind?_require]
    cases !touchesHyphen s.toList <;> simp

theorem bucketLabel_kind (s : String) : (bucketLabel s).kind? =
    [.required, .tooShort, .tooLong, .invalidCharacters, .invalidBoundary].find?
      (SlugFault 3 63 s ·) := by
  simp only [bucketLabel, Verdict.fail, Verdict.kind?_reject, String.isEmpty_iff]
  rw [find?_fault_cons, find?_fault_cons, find?_fault_cons, ← kind?_ends]
  rfl

theorem region_kind (field s : String) : (region field s).kind? =
    [.required, .tooLong, .invalidCharacters, .invalidBoundary].find? (SlugFault 1 32 s ·) := by
  simp only [region, Verdict.fail, Verdict.kind?_reject, String.isEmpty_iff]
  rw [find?_fault_cons, find?_fault_cons, ← kind?_ends]
  rfl

/-! ## Labels -/

def isSlugEnd (c : Char) : Bool := c.isLower || c.isDigit

theorem slug_iff_hyphenated {least most : Nat} (hleast : 1 ≤ least) (s : String) :
    Slug least most s ↔ least ≤ s.length ∧ s.length ≤ most ∧ Hyphenated isSlugEnd s.toList := by
  have hcharacter : ∀ c : Char,
      (c.isLower ∨ c.isDigit ∨ c = '-') ↔ (isSlugEnd c = true ∨ c = '-') := by
    intro c
    simp [isSlugEnd, or_assoc]
  rw [hyphenated_iff (by decide)]
  constructor
  · rintro ⟨hlong, hshort, hcharacters, hfirst, hlast⟩
    refine ⟨hlong, hshort, ?_, fun c hc => (hcharacter c).mp (hcharacters c hc), hfirst, hlast⟩
    intro hnil
    rw [← String.length_toList, hnil, List.length_nil] at hlong
    omega
  · rintro ⟨hlong, hshort, -, hcharacters, hfirst, hlast⟩
    exact ⟨hlong, hshort, fun c hc => (hcharacter c).mpr (hcharacters c hc), hfirst, hlast⟩

/-- The labels of buckets: `[a-z0-9][a-z0-9-]{1,61}[a-z0-9]`. -/
def MatchesBucket (s : String) : Prop :=
  ∃ first middle last, s.toList = first :: (middle ++ [last]) ∧ isSlugEnd first = true ∧
    (1 ≤ middle.length ∧ middle.length ≤ 61) ∧ (∀ c ∈ middle, isSlugEnd c = true ∨ c = '-') ∧
    isSlugEnd last = true

theorem bucketName_iff (s : String) : BucketName s ↔ MatchesBucket s := by
  rw [BucketName, slug_iff_hyphenated (by decide), ← String.length_toList]
  unfold MatchesBucket
  generalize s.toList = cs
  constructor
  · rintro ⟨hlong, hshort, hlabel⟩
    cases hlabel with
    | single h => simp at hlong
    | @framed first last middle hfirst hmiddle hlast =>
      simp only [List.length_cons, List.length_append, List.length_nil] at hlong hshort
      exact ⟨first, middle, last, rfl, hfirst, ⟨by omega, by omega⟩, hmiddle, hlast⟩
  · rintro ⟨first, middle, last, rfl, hfirst, ⟨hleast, hmost⟩, hmiddle, hlast⟩
    refine ⟨?_, ?_, .framed hfirst hmiddle hlast⟩
    · simp only [List.length_cons, List.length_append, List.length_nil]
      omega
    · simp only [List.length_cons, List.length_append, List.length_nil]
      omega

theorem Slug.isLabel {least most : Nat} (hleast : 1 ≤ least) {s : String} (h : Slug least most s) :
    IsLabel s.toList := by
  refine ((slug_iff_hyphenated hleast s).mp h).2.2.mono fun c hc => ?_
  have halphanum : c.isAlphanum = (c.isUpper || c.isLower || c.isDigit) := rfl
  rw [halphanum, Bool.or_assoc, show (c.isLower || c.isDigit) = true from hc, Bool.or_true]

/-- A label is a name by itself. -/
theorem isDnsName_of_label {s : String} (h : IsLabel s.toList) : isDnsName s = true :=
  isDnsName_iff.mpr
    ⟨[s.toList], List.cons_ne_nil _ _, by simpa using h, (List.intercalate_singleton ..).symm⟩

end Rule

namespace Request

/-- A slug needs no encoding, and it is no name of a directory. -/
theorem fillArgument_slug {name s : String} {least most : Nat}
    (hname : isIdentifierName name = false) (hleast : 1 ≤ least) (h : Rule.Slug least most s) :
    fillArgument name (some (.str s)) = .ok s := by
  have hchars : ∀ c ∈ s.toList, Text.isUnreserved c = true := by
    intro c hc
    rcases h.characters c hc with hlower | hdigit | rfl
    · have halpha : c.isAlphanum = (c.isUpper || c.isLower || c.isDigit) := rfl
      simp [Text.isUnreserved, halpha, hlower]
    · exact isUnreserved_of_isDigit hdigit
    · rfl
  have hdot : '.' ∉ s.toList := by
    intro hmem
    exact absurd (h.characters '.' hmem) (by decide)
  have hempty : s.isEmpty = false := by
    rw [← Bool.not_eq_true, Rule.isEmpty_iff_length]
    have hlong := h.long
    omega
  have hcurrent : s ≠ "." := by
    rintro rfl
    exact hdot (by decide)
  have hparent : s ≠ ".." := by
    rintro rfl
    exact hdot (by decide)
  have htext : segmentText? (some (.str s)) = some s := by simp [segmentText?, hempty]
  simp only [fillArgument, htext, hname, Bool.false_eq_true, ↓reduceIte, hcurrent, hparent,
    or_self, Text.percentEncode_of_unreserved hchars, String.ofList_toList]

end Request

namespace Rule

open Request (isIdentifierName fillArgument fillArgument_slug)

/-- The rules for buckets and regions take exactly the slugs of their lengths, and tell the first
fault of any other text. What they take is one label of a host name and one segment of a path. -/
theorem slugs_decided (field s : String) :
    (bucketLabel s = .ok () ↔ MatchesBucket s) ∧
      (region field s = .ok () ↔ RegionName s) ∧
      (bucketLabel s).kind? =
        [.required, .tooShort, .tooLong, .invalidCharacters, .invalidBoundary].find?
          (SlugFault 3 63 s ·) ∧
      (region field s).kind? =
        [.required, .tooLong, .invalidCharacters, .invalidBoundary].find? (SlugFault 1 32 s ·) ∧
      (bucketLabel s = .ok () ∨ region field s = .ok () →
        isDnsName s = true ∧ IsLabel s.toList ∧
          ∀ name, isIdentifierName name = false → fillArgument name (some (.str s)) = .ok s) := by
  have hslug : ∀ {least most : Nat}, 1 ≤ least → Slug least most s →
      isDnsName s = true ∧ IsLabel s.toList ∧
        ∀ name, isIdentifierName name = false → fillArgument name (some (.str s)) = .ok s := by
    intro least most hleast h
    have hlabel := h.isLabel hleast
    exact ⟨isDnsName_of_label hlabel, hlabel, fun name hname => fillArgument_slug hname hleast h⟩
  refine ⟨by rw [bucketLabel_eq_ok, bucketName_iff], region_eq_ok field s, bucketLabel_kind s,
    region_kind field s, ?_⟩
  rintro (h | h)
  · exact hslug (by decide) ((bucketLabel_eq_ok s).mp h)
  · exact hslug (by decide) ((region_eq_ok field s).mp h)

theorem slugs_decided_names :
    (bucketLabel "my-bucket-7" = .ok () ∧ isIdentifierName "label" = false ∧
        isDnsName "my-bucket-7" = true ∧ IsLabel "my-bucket-7".toList ∧
        fillArgument "label" (some (.str "my-bucket-7")) = .ok "my-bucket-7") ∧
      (region "cluster" "x" = .ok () ∧ isIdentifierName "cluster" = false ∧
        isDnsName "x" = true ∧ IsLabel "x".toList ∧
        fillArgument "cluster" (some (.str "x")) = .ok "x") := by
  have hbucket : bucketLabel "my-bucket-7" = .ok () := eq_ok_of_toBool (by decide +kernel)
  have hregion : region "cluster" "x" = .ok () := eq_ok_of_toBool (by decide +kernel)
  obtain ⟨hname, hlabel, hfill⟩ :=
    (slugs_decided "cluster" "my-bucket-7").2.2.2.2 (Or.inl hbucket)
  obtain ⟨hname', hlabel', hfill'⟩ := (slugs_decided "cluster" "x").2.2.2.2 (Or.inr hregion)
  exact ⟨⟨hbucket, by decide, hname, hlabel, hfill "label" (by decide)⟩,
    ⟨hregion, by decide, hname', hlabel', hfill' "cluster" (by decide)⟩⟩

/-- A text with several faults is told of the first. -/
example : ["", "-", "-B", "-B-", "-b-", "b-b"].map (fun s => (bucketLabel s).kind?) =
    [some .required, some .tooShort, some .tooShort, some .invalidCharacters,
      some .invalidBoundary, none] := by decide +kernel

end Rule

end CloudGate
