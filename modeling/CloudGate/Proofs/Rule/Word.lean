import CloudGate.Proofs.Rule.Resource

/-!
Words that may be written in any case: policies, methods and types of records. The comparison folds
all of Unicode, and yet only ASCII text is ever taken for one of the words.

* `ascii_of_sameSpelling`: the spellings of an ASCII word are ASCII text.
* `parse_eq_ok`: the spellings of the name of a type of records are read as this type.
* `words_decided`: the rules take the spellings of their words, and nothing else.
-/

namespace CloudGate

namespace Text

/-- All characters are ASCII characters. -/
def IsAsciiText (s : String) : Prop := ∀ c ∈ s.toList, isAscii c = true

instance (s : String) : Decidable (IsAsciiText s) := List.decidableBAll _ _

theorem ascii_of_sameSpelling {s word : String} (hword : IsAsciiText word)
    (h : SameSpelling s word) : IsAsciiText s := by
  intro c hc
  have hlower : c.toLower ∈ word.toList.map Char.toLower := h ▸ List.mem_map_of_mem hc
  obtain ⟨d, hd, heq⟩ := List.mem_map.mp hlower
  rw [← isAscii_toLower, ← heq, isAscii_toLower]
  exact hword d hd

theorem exists_spelling_iff {words : List String} (hwords : ∀ word ∈ words, IsAsciiText word)
    (s : String) : (∃ word ∈ words, SameSpelling s word) ↔
      IsAsciiText s ∧ ∃ word ∈ words, SameSpelling s word := by
  constructor
  · rintro ⟨word, hmem, h⟩
    exact ⟨ascii_of_sameSpelling (hwords word hmem) h, word, hmem, h⟩
  · rintro ⟨-, h⟩
    exact h

end Text

open Text (SameSpelling IsAsciiText)

namespace RecordType

theorem mem_all (type : RecordType) : type ∈ all := by
  cases type <;> decide

/-- The names differ in more than case. -/
theorem eq_of_sameSpelling {type other : RecordType} (h : SameSpelling type.name other.name) :
    type = other := by
  have hall : ∀ type ∈ all, ∀ other ∈ all,
      type.name.toList.map Char.toLower = other.name.toList.map Char.toLower → type = other := by
    decide
  exact hall type (mem_all type) other (mem_all other) h

theorem eqFold_name_iff (s : String) (type : RecordType) :
    Text.eqFold s type.name = true ↔ SameSpelling s type.name := by
  have hplain : ∀ type ∈ all, Text.isPlainWord type.name = true := by decide
  exact Text.eqFold_iff (hplain type (mem_all type)) s

theorem parse_eq_ok {s : String} {type : RecordType} :
    parse s = .ok type ↔ SameSpelling s type.name := by
  unfold parse
  by_cases hs : s = ""
  · subst hs
    have hempty : ∀ type ∈ all, [] ≠ type.name.toList.map Char.toLower := by decide
    exact iff_of_false (by simp) (hempty type (mem_all type))
  · rw [if_neg (by simpa [String.isEmpty_iff] using hs)]
    cases hfind : all.find? fun t => Text.eqFold s t.name with
    | none =>
      refine iff_of_false (by simp) fun h => ?_
      exact List.find?_eq_none.mp hfind type (mem_all type) ((eqFold_name_iff s type).mpr h)
    | some found =>
      have hfold : Text.eqFold s found.name = true := by simpa using List.find?_some hfind
      have hfound := (eqFold_name_iff s found).mp hfold
      simp only [Except.ok.injEq]
      constructor
      · rintro rfl
        exact hfound
      · intro h
        exact eq_of_sameSpelling (hfound.symm.trans h)

end RecordType

namespace Rule

/-- The rules for policies and methods and the reading of types take ASCII spellings of their words
and nothing else. What is read from a spelling of the name of a type is the type. -/
theorem words_decided (s : String) :
    (firewallPolicy s = .ok () ↔
        IsAsciiText s ∧ ∃ word ∈ ["ACCEPT", "DROP"], SameSpelling s word) ∧
      (presignedMethod s = .ok () ↔
        IsAsciiText s ∧ ∃ word ∈ ["GET", "PUT"], SameSpelling s word) ∧
      ((∃ type, RecordType.parse s = .ok type) ↔
        IsAsciiText s ∧
          ∃ word ∈ ["A", "AAAA", "CNAME", "MX", "NS", "TXT", "SRV", "CAA"], SameSpelling s word) ∧
      ∀ type, RecordType.parse s = .ok type ↔ SameSpelling s type.name := by
  refine ⟨?_, ?_, ?_, fun type => RecordType.parse_eq_ok⟩
  · rw [firewallPolicy_eq_ok]
    exact Text.exists_spelling_iff (by decide) s
  · rw [presignedMethod_eq_ok]
    exact Text.exists_spelling_iff (by decide) s
  · have hnames : ["A", "AAAA", "CNAME", "MX", "NS", "TXT", "SRV", "CAA"] = RecordType.names := rfl
    rw [← Text.exists_spelling_iff (by decide) s, hnames]
    simp [RecordType.names, RecordType.mem_all, RecordType.parse_eq_ok]

/-- A Cyrillic letter that looks like the first one of the name makes no spelling of it. -/
example : ["caa", "cAa", "\u0421AA", "CAA ", ""].map (fun s => (RecordType.parse s).toOption) =
    [some .caa, some .caa, none, none, none] := by decide +kernel

end Rule

end CloudGate
