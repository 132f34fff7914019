import CloudGate.Proofs.Text.Split
import CloudGate.Proofs.Verdict
import CloudGate.Rule.DnsName
import Mathlib.Data.List.Basic

/-!
The one grammar of names behind the rules for record names, hosts, zones and addresses of contacts.

* `isDnsLabel_iff`: a label has letters and digits at its ends, and hyphens at most between them.
* `isDnsName_iff`: a name is labels with dots between them, whatever its length.
* `isDnsName_append`: names joined by a dot are a name, and nothing else joined by a dot is one.
* `names_nested`: each rule takes a part of what the one before it takes.
-/

namespace CloudGate.Rule

/-! ## Labels -/

/-- Characters of a class, and hyphens too between the first and the last of them. -/
inductive Hyphenated (p : Char → Bool) : List Char → Prop
  | single {c : Char} (h : p c = true) : Hyphenated p [c]
  | framed {first last : Char} {middle : List Char} (hfirst : p first = true)
    (hmiddle : ∀ c ∈ middle, p c = true ∨ c = '-') (hlast : p last = true) :
    Hyphenated p (first :: (middle ++ [last]))

theorem ne_hyphen {p : Char → Bool} (hp : p '-' = false) {c : Char} (h : p c = true) : c ≠ '-' := by
  rintro rfl
  rw [hp] at h
  contradiction

theorem hyphenated_iff {p : Char → Bool} (hp : p '-' = false) {cs : List Char} :
    Hyphenated p cs ↔ cs ≠ [] ∧ (∀ c ∈ cs, p c = true ∨ c = '-') ∧ cs.head? ≠ some '-' ∧
      cs.getLast? ≠ some '-' := by
  constructor
  · intro h
    cases h with
    | single h => simp [h, ne_hyphen hp h]
    | @framed first last middle hfirst hmiddle hlast =>
      have hall : ∀ c ∈ first :: (middle ++ [last]), p c = true ∨ c = '-' := by
        intro c hc
        rw [List.mem_cons, List.mem_append, List.mem_singleton] at hc
        rcases hc with rfl | hc | rfl
        · exact Or.inl hfirst
        · exact hmiddle c hc
        · exact Or.inl hlast
      refine ⟨List.cons_ne_nil _ _, hall, by simpa using ne_hyphen hp hfirst, ?_⟩
      rw [← List.cons_append, List.getLast?_concat]
      simpa using ne_hyphen hp hlast
  · rintro ⟨hne, hall, hhead, hlast⟩
    cases cs with
    | nil => contradiction
    | cons first rest =>
      rw [List.head?_cons, Ne, Option.some.injEq] at hhead
      have hfirst := (hall first (List.mem_cons_self ..)).resolve_right hhead
      rcases List.eq_nil_or_concat' rest with rfl | ⟨middle, last, rfl⟩
      · exact .single hfirst
      · rw [← List.cons_append, List.getLast?_concat, Ne, Option.some.injEq] at hlast
        refine .framed hfirst (fun c hc => hall c ?_) ((hall last ?_).resolve_right hlast)
        · simp [hc]
        · simp

theorem Hyphenated.mono {p q : Char → Bool} (hpq : ∀ c, p c = true → q c = true) {cs : List Char}
    (h : Hyphenated p cs) : Hyphenated q cs := by
  cases h with
  | single h => exact .single (hpq _ h)
  | framed hfirst hmiddle hlast =>
    exact .framed (hpq _ hfirst) (fun c hc => (hmiddle c hc).imp_left (hpq c)) (hpq _ hlast)

/-- The labels of the domain name system: `[A-Za-z0-9]([A-Za-z0-9-]*[A-Za-z0-9])?`. -/
abbrev IsLabel := Hyphenated Char.isAlphanum

theorem isDnsLabel_iff {cs : List Char} : isDnsLabel cs = true ↔ IsLabel cs := by
  constructor
  · intro h
    unfold isDnsLabel at h
    split at h
    · rename_i first last hfirst hlast
      have hp : Char.isAlphanum '-' = false := by decide
      simp only [Bool.and_eq_true, List.all_eq_true, Bool.or_eq_true, beq_iff_eq] at h
      obtain ⟨⟨hhead, hend⟩, hall⟩ := h
      refine (hyphenated_iff hp).mpr ⟨?_, hall, ?_, ?_⟩
      · rintro rfl
        contradiction
      · simpa [hfirst] using ne_hyphen hp hhead
      · simpa [hlast] using ne_hyphen hp hend
    · contradiction
  · intro h
    cases h with
    | single h => simp [isDnsLabel, h]
    | @framed first last middle hfirst hmiddle hlast =>
      have hend : (first :: (middle ++ [last])).getLast? = some last := by
        rw [← List.cons_append, List.getLast?_concat]
      simpa [isDnsLabel, hend, hfirst, hlast] using hmiddle

/-! ## Names -/

/-- Labels with dots between them, at least one. -/
def IsName (s : String) : Prop :=
  ∃ labels : List (List Char), labels ≠ [] ∧ (∀ label ∈ labels, IsLabel label) ∧
    s.toList = ['.'].intercalate labels

/-- A name need not be tested for being empty, because its labels are. -/
theorem isDnsName_eq (s : String) : isDnsName s = (Text.splitBy '.' s.toList).all isDnsLabel := by
  unfold isDnsName
  by_cases hs : s = ""
  · subst hs
    rfl
  · have hempty : s.isEmpty = false := by simpa [String.isEmpty_iff] using hs
    rw [hempty, Bool.not_false, Bool.true_and]

theorem isDnsName_iff {s : String} : isDnsName s = true ↔ IsName s := by
  rw [isDnsName_eq, List.all_eq_true]
  simp only [isDnsLabel_iff]
  constructor
  · intro h
    exact ⟨_, Text.splitBy_ne_nil '.' s.toList, h, (Text.intercalate_splitBy '.' s.toList).symm⟩
  · rintro ⟨labels, hne, hlabels, hs⟩
    have hplain : ∀ label ∈ labels, '.' ∉ label := by
      intro label hlabel hdot
      have hchars := ((hyphenated_iff (by decide)).mp (hlabels label hlabel)).2.1
      exact absurd (hchars '.' hdot) (by decide)
    rw [hs, Text.splitBy_intercalate hne hplain]
    exact hlabels

theorem isDnsName_append (a b : String) :
    isDnsName (a ++ "." ++ b) = (isDnsName a && isDnsName b) := by
  have hdot : ".".toList = ['.'] := rfl
  simp only [isDnsName_eq, String.toList_append, hdot, List.append_assoc, List.singleton_append,
    Text.splitBy_append_sep, List.all_append]

/-! ## Rules -/

theorem recordName_eq_ok (s : String) :
    recordName s = .ok () ↔ s.utf8ByteSize ≤ 253 ∧ (s = "" ∨ s = "@" ∨ isDnsName s = true) := by
  simp only [recordName, Verdict.fail, Verdict.reject_eq_ok, Verdict.require_eq_ok,
    Bool.or_eq_true, String.isEmpty_iff, beq_iff_eq, Nat.not_lt, or_assoc]
  exact Iff.rfl

/-- The name of the zone is short enough for every rule. -/
theorem hostnameTarget_eq_ok (s : String) :
    hostnameTarget s = .ok () ↔ s ≠ "" ∧ recordName s = .ok () := by
  have hhost : hostnameTarget s = .ok () ↔
      s = "@" ∨ (s.utf8ByteSize ≤ 253 ∧ isDnsName s = true) := by
    simp only [hostnameTarget, Verdict.require_eq_ok, Bool.or_eq_true, beq_iff_eq,
      Bool.and_eq_true, decide_eq_true_eq]
    exact Iff.rfl
  rw [hhost, recordName_eq_ok]
  constructor
  · rintro (rfl | ⟨hshort, hname⟩)
    · exact ⟨by decide, by decide, Or.inr (Or.inl rfl)⟩
    · refine ⟨?_, hshort, Or.inr (Or.inr hname)⟩
      rintro rfl
      contradiction
  · rintro ⟨hne, hshort, hempty | hapex | hname⟩
    · contradiction
    · exact Or.inl hapex
    · exact Or.inr ⟨hshort, hname⟩

theorem domainName_eq_ok (s : String) :
    domainName s = .ok () ↔ hostnameTarget s = .ok () ∧ '.' ∈ s.toList := by
  have hdomain : domainName s = .ok () ↔
      s ≠ "" ∧ s.utf8ByteSize ≤ 253 ∧ isDnsName s = true ∧ '.' ∈ s.toList := by
    simp only [domainName, Verdict.fail, Verdict.reject_eq_ok, Verdict.require_eq_ok,
      String.isEmpty_iff, Nat.not_lt, Bool.and_eq_true, List.contains_iff_mem]
    exact Iff.rfl
  rw [hdomain, hostnameTarget_eq_ok, recordName_eq_ok]
  constructor
  · rintro ⟨hne, hshort, hname, hdot⟩
    exact ⟨⟨hne, hshort, Or.inr (Or.inr hname)⟩, hdot⟩
  · rintro ⟨⟨hne, hshort, hempty | rfl | hname⟩, hdot⟩
    · contradiction
    · exact absurd hdot (by decide)
    · exact ⟨hne, hshort, hname, hdot⟩

/-- The text is cut at its first sign, and the second part has no other. -/
theorem isSoaEmail_iff (s : String) : isSoaEmail s = true ↔
    s.toList.count '@' = 1 ∧ ∃ user host : String, s = user ++ "@" ++ host ∧ user ≠ "" ∧
      (∀ c ∈ user.toList, Text.isBlank c = false) ∧ domainName host = .ok () := by
  have hsign : "@".toList = ['@'] := rfl
  unfold isSoaEmail
  constructor
  · intro h
    split at h
    · contradiction
    · rename_i user host hsplit
      obtain ⟨huser, htext⟩ := Text.splitFirst?_eq_some.mp hsplit
      simp only [Bool.and_eq_true, Bool.not_eq_true', Verdict.isPass_iff] at h
      obtain ⟨⟨⟨hne, hblank⟩, hother⟩, hdomain⟩ := h
      have hhost : '@' ∉ host := by simpa using hother
      refine ⟨?_, String.ofList user, String.ofList host, ?_, ?_, ?_, hdomain⟩
      · simp [htext, List.count_eq_zero.mpr huser, List.count_eq_zero.mpr hhost]
      · rw [← String.toList_inj]
        simp [htext, hsign]
      · simpa [String.ofList_eq_empty_iff] using hne
      · simpa using hblank
  · rintro ⟨hcount, user, host, rfl, hne, hblank, hdomain⟩
    simp only [String.toList_append, hsign, List.append_assoc, List.singleton_append,
      List.count_append, List.count_cons_self] at hcount
    have huser : '@' ∉ user.toList := List.count_eq_zero.mp (by omega)
    have hhost : '@' ∉ host.toList := List.count_eq_zero.mp (by omega)
    have hsplit : Text.splitFirst? '@' (user ++ "@" ++ host).toList =
        some (user.toList, host.toList) :=
      Text.splitFirst?_eq_some.mpr ⟨huser, by simp [hsign]⟩
    have hsome : user.toList ≠ [] := by rwa [Ne, String.toList_eq_nil_iff]
    simp only [hsplit, String.ofList_toList, Bool.and_eq_true, Bool.not_eq_true',
      Verdict.isPass_iff]
    exact ⟨⟨⟨by simpa using hsome, by simpa using hblank⟩, by simpa using hhost⟩, hdomain⟩

theorem soaEmail_eq_ok (s : String) : soaEmail s = .ok () ↔ isSoaEmail s = true := by
  simp only [soaEmail, Verdict.reject_eq_ok, Verdict.require_eq_ok, String.isEmpty_iff,
    and_iff_right_iff_imp]
  rintro h rfl
  contradiction

/-- All rules rest on one grammar: hosts are record names that are not empty, zones are hosts with a
dot in them, and the address of a contact names a zone behind its only sign. -/
theorem names_nested (s : String) :
    (isDnsName s = true ↔ IsName s) ∧
      (∀ a b : String, isDnsName (a ++ "." ++ b) = true ↔ isDnsName a = true ∧ isDnsName b = true) ∧
      (recordName s = .ok () ↔ s.utf8ByteSize ≤ 253 ∧ (s = "" ∨ s = "@" ∨ IsName s)) ∧
      (hostnameTarget s = .ok () ↔ s ≠ "" ∧ recordName s = .ok ()) ∧
      (domainName s = .ok () ↔ hostnameTarget s = .ok () ∧ '.' ∈ s.toList) ∧
      (soaEmail s = .ok () ↔
        s.toList.count '@' = 1 ∧ ∃ user host : String, s = user ++ "@" ++ host ∧ user ≠ "" ∧
          (∀ c ∈ user.toList, Text.isBlank c = false) ∧ domainName host = .ok ()) := by
  refine ⟨isDnsName_iff, ?_, ?_, hostnameTarget_eq_ok s, domainName_eq_ok s, ?_⟩
  · intro a b
    rw [isDnsName_append, Bool.and_eq_true]
  · rw [recordName_eq_ok, isDnsName_iff]
  · rw [soaEmail_eq_ok, isSoaEmail_iff]

/-- Empty labels and hyphens at the ends of labels are no part of names. -/
example : ["www", "a--b.c", "-www", "www-", "a..b", ".a", "a.", "@", ""].map isDnsName =
    [true, true, false, false, false, false, false, false, false] := by decide +kernel

end CloudGate.Rule
