import CloudGate.Proofs.Operation.GrantText

/-!
The value that a text of grants stands for. Members that no grant has are passed over, also where
they hold what no reader of values accepts, such as a number beyond all bounds; they count as null
here.

* `exists_members`: the members of a record, with null for those that are passed over.
* `exists_value_of_read`: every record that is read has a value, which denotes the grant.
* `exists_values_of_parseList`: so has every text of grants.
-/

namespace CloudGate.Grant

open Json (NextEntry)

/-! ## Values of texts -/

/-- The value of a member, after its key. Only what a grant has is read. -/
def memberValueOf : String → Json.Reader Json := fun key cs => do
  let item ← Json.readColon cs
  if fields.any (·.isNamed key) then
    let (text, rest) ← Json.readText item
    .ok (.str text, rest)
  else
    let (_, rest) ← Json.skipValue item
    .ok (.null, rest)

/-- The value of a record: an object, or a list of texts. -/
def valueOf : Json.Reader Json := fun cs =>
  match Json.skipSpace cs with
  | '{' :: rest => do
    let (members, rest) ← Json.readMembers memberValueOf true (rest.length + 1) rest
    .ok (Json.object members, rest)
  | _ => do
    let (texts, rest) ← Json.readListOf Json.readText cs
    .ok (.strings texts, rest)

/-- The values of the records in a text. -/
def valuesOf (s : String) : Except Json.Fault (List Json) :=
  Json.readAll (Json.readListOf valueOf) s.toList

/-! ## Records -/

theorem TakesMember.value {taken taken' : Fields String} {key : String}
    {afterKey item mid : List Char} (hcolon : Json.readColon afterKey = .ok item)
    (h : TakesMember taken key item taken' mid) :
    ∃ v, memberValueOf key afterKey = .ok (v, mid) ∧ ∀ members,
      Json.Record.ofMembers fields (asValues taken) ((key, v) :: members) =
        Json.Record.ofMembers fields (asValues taken') members := by
  cases h with
  | unknown hfind hskip =>
    have hany : fields.any (·.isNamed key) = false :=
      List.any_eq_false.mpr (List.find?_eq_none.mp hfind)
    refine ⟨.null, bind_eq_ok.mpr ⟨item, hcolon, ?_⟩, fun members => ?_⟩
    · rw [if_neg (by simp [hany])]
      exact bind_eq_ok.mpr ⟨_, hskip, rfl⟩
    · rw [Json.Record.ofMembers]
      simp only [hfind]
  | @field f text _ hfind hnew htext =>
    have hnamed := List.find?_some hfind
    have hany : fields.any (·.isNamed key) = true :=
      List.any_eq_true.mpr ⟨f, List.mem_of_find?_eq_some hfind, hnamed⟩
    have hfresh : (asValues taken).contains f.name = false :=
      (contains_asValues taken f.name).trans hnew
    refine ⟨.str text, bind_eq_ok.mpr ⟨item, hcolon, ?_⟩, fun members => ?_⟩
    · rw [if_pos hany]
      exact bind_eq_ok.mpr ⟨_, htext, rfl⟩
    · rw [Json.Record.ofMembers]
      simp only [hfind, hfresh, Bool.false_eq_true, ↓reduceIte]
      rw [check_text (List.mem_of_find?_eq_some hfind), asValues_insert]
      rfl

/-- The members of a record have values, and are taken like these. -/
theorem exists_members {first : Bool} {n : Nat} {cs rest : List Char} {texts texts' : Fields String}
    (h : readMembers texts first n cs = .ok (texts', rest)) :
    ∃ members, Json.readMembers memberValueOf first n cs = .ok (members, rest) ∧
      Json.Record.ofMembers fields (asValues texts) members = .ok (asValues texts') := by
  induction n generalizing first cs texts with
  | zero => contradiction
  | succ n ih =>
    rcases readMembers_cases h with
      ⟨hcs, rfl⟩ | ⟨quoted, key, afterKey, item, taken, mid, hstart, hkey, hcolon, htake, hmore⟩
    · exact ⟨[], Json.readMembers_of_close hcs n, rfl⟩
    · obtain ⟨v, hv, htaken⟩ := htake.value hcolon
      obtain ⟨members, hmembers, hall⟩ := ih hmore
      exact ⟨(key, v) :: members, Json.readMembers_of_entry hstart hkey hv hmembers,
        (htaken members).trans hall⟩

/-- The elements of a record in list form are texts, one for each of the first fields. -/
theorem exists_texts {fs : List Json.Field} {first : Bool} {cs rest : List Char}
    {texts texts' : Fields String} (h : readItems texts first fs cs = .ok (texts', rest)) {n : Nat}
    (hn : cs.length < n) :
    ∃ given, Json.readElements Json.readText first n cs = .ok (given, rest) ∧
      given.length ≤ fs.length ∧
      texts' = (fs.zip given).foldl (fun texts p => texts.insert p.1.name p.2) texts := by
  obtain ⟨n, rfl⟩ := Nat.exists_eq_succ_of_ne_zero (Nat.ne_zero_of_lt hn)
  induction fs generalizing first cs texts n with
  | nil =>
    rcases readItems_cases h with ⟨hcs, rfl⟩ | ⟨f, fs, _, _, _, hfs, -⟩
    · exact ⟨[], Json.readElements_of_close hcs n, Nat.le_refl 0, rfl⟩
    · contradiction
  | cons f fs ih =>
    rcases readItems_cases h with ⟨hcs, rfl⟩ | ⟨_, _, start, text, mid, hfs, hstart, htext, hmore⟩
    · exact ⟨[], Json.readElements_of_close hcs n, Nat.zero_le _, by rw [List.zip_nil_right]; rfl⟩
    · obtain ⟨rfl, rfl⟩ := List.cons.inj hfs
      obtain ⟨more, hquote, hstring⟩ := Json.exists_quote_of_readText htext
      rw [hstart.skipSpace_eq] at hquote
      have hmid : mid.length < n := by
        have hlength := hstart.length_le
        have hshorter := (Json.skipString_of_readString hstring).1
        rw [hquote, List.length_cons] at hlength
        omega
      obtain ⟨n, rfl⟩ := Nat.exists_eq_succ_of_ne_zero (Nat.ne_zero_of_lt hmid)
      obtain ⟨given, hgiven, hlength, htexts⟩ := ih hmore n hmid
      exact ⟨text :: given,
        Json.readElements_of_entry hstart hquote (by decide) htext hgiven,
        Nat.succ_le_succ hlength, htexts⟩

/-- A record that is read has a value, and this denotes the grant. -/
theorem exists_value_of_read {cs rest : List Char} {g : Grant} (h : read cs = .ok (g, rest)) :
    ∃ v, valueOf cs = .ok (v, rest) ∧ Denotes v g := by
  unfold read at h
  simp only at h
  split at h
  · contradiction
  · rename_i more hcs
    obtain ⟨⟨texts, last⟩, htexts, hok⟩ := bind_eq_ok.mp h
    obtain ⟨rfl, rfl⟩ := Prod.mk.inj (Except.ok.inj hok)
    obtain ⟨members, hmembers, htaken⟩ := exists_members htexts
    refine ⟨Json.object members, ?_, denotes_object htaken⟩
    unfold valueOf
    simp only [hcs]
    exact bind_eq_ok.mpr ⟨_, hmembers, rfl⟩
  · rename_i more hcs
    obtain ⟨⟨texts, last⟩, htexts, hok⟩ := bind_eq_ok.mp h
    obtain ⟨rfl, rfl⟩ := Prod.mk.inj (Except.ok.inj hok)
    obtain ⟨given, hgiven, hlength, rfl⟩ := exists_texts htexts (Nat.lt_succ_self _)
    refine ⟨.strings given, ?_, ?_⟩
    · have hlist : Json.readListOf Json.readText cs = .ok (given, last) := by
        unfold Json.readListOf
        simp only [hcs, hgiven]
      unfold valueOf
      simp only [hcs]
      exact bind_eq_ok.mpr ⟨_, hlist, rfl⟩
    · rw [ofTexts_zip hlength]
      exact .list hlength
  · exact absurd h (Json.mismatchAt_ne_ok _ _ _)

/-! ## Texts -/

/-- A record starts with a brace or a bracket, so that it does not close the list. -/
theorem opens_of_read {cs rest : List Char} {g : Grant} (h : read cs = .ok (g, rest)) :
    ∃ c more, Json.skipSpace cs = c :: more ∧ c ≠ ']' := by
  unfold read at h
  simp only at h
  split at h
  · contradiction
  · rename_i hcs
    exact ⟨_, _, hcs, by decide⟩
  · rename_i hcs
    exact ⟨_, _, hcs, by decide⟩
  · exact absurd h (Json.mismatchAt_ne_ok _ _ _)

theorem exists_values_of_readListOf {cs rest : List Char} {grants : List Grant}
    (h : Json.readListOf read cs = .ok (grants, rest)) :
    ∃ items, Json.readListOf valueOf cs = .ok (items, rest) ∧
      List.Forall₂ Denotes items grants := by
  unfold Json.readListOf at h
  simp only at h
  split at h
  · contradiction
  · rename_i hcs
    obtain ⟨items, hitems, hdenote⟩ :=
      Json.exists_readElements opens_of_read exists_value_of_read h
    refine ⟨items, ?_, hdenote.flip⟩
    unfold Json.readListOf
    simp only [hcs, hitems]
  · exact absurd h (Json.mismatchAt_ne_ok _ _ _)

/-- A text that is read as grants has values, and these denote the grants one by one. -/
theorem exists_values_of_parseList {s : String} {grants : List Grant}
    (h : parseList s.toList = .ok grants) :
    ∃ items, valuesOf s = .ok items ∧ List.Forall₂ Denotes items grants := by
  obtain ⟨⟨read, rest⟩, hread, hend⟩ := bind_eq_ok.mp (readAll_of_parseList h)
  obtain ⟨items, hitems, hdenote⟩ := exists_values_of_readListOf hread
  simp only at hend
  split at hend
  · rename_i hempty
    obtain rfl := Except.ok.inj hend
    refine ⟨items, bind_eq_ok.mpr ⟨_, hitems, ?_⟩, hdenote⟩
    simp only [hempty, ↓reduceIte]
  · contradiction

/-- A number beyond all bounds is no value, but the grant beside it is read. -/
example :
    let text := "[\x7b\"bucket_name\":\"media\",\"note\":1e999\x7d]"
    (Json.parse text).toBool = false ∧
      (valuesOf text).toOption.map (·.map Json.render) =
        some ["\x7b\"bucket_name\":\"media\",\"note\":null\x7d"] ∧
      (parseList text.toList).toOption =
        some [{ bucketName := "media", region := "", permissions := "" }] := by
  intro text
  exact ⟨by decide +kernel, by decide +kernel, by decide +kernel⟩

end CloudGate.Grant
