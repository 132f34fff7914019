import CloudGate.Operation.Grant
import CloudGate.Proofs.Fields
import CloudGate.Proofs.Verdict

/-!
Grants as JSON values: which value denotes which grant.

* `denotes_of_decode`: a value is read as the grant that it denotes.
* `decode_toJson`: the normal form of a grant is read as the grant.
-/

namespace CloudGate

namespace Json.Record

/-- Under the names of a field there is at most one member, which the field accepts. -/
theorem ofMembers_under {fields : List Field} {key : String} {names : List String}
    (hnames : ∀ name, name ∈ names ↔ (fields.find? (·.isNamed name)).map (·.name) = some key)
    {P : Json → Prop} (hcheck : ∀ f ∈ fields, ∀ v, f.check v = .ok () → P v)
    {members taken taken' : Fields Json} (h : ofMembers fields taken members = .ok taken') :
    (taken'.get? key).toList = (taken.get? key).toList ++ members.under names ∧
      ∀ v ∈ members.under names, P v := by
  induction members generalizing taken with
  | nil =>
    obtain rfl := Except.ok.inj h
    simp [Fields.under]
  | cons p rest ih =>
    obtain ⟨name, v⟩ := p
    unfold ofMembers at h
    have hname := hnames name
    cases hfind : fields.find? (·.isNamed name) with
    | none =>
      rw [hfind, Option.map_none] at hname
      rw [Fields.under_cons_of_not_mem (by simp [hname])]
      simp only [hfind] at h
      exact ih h
    | some f =>
      simp only [hfind] at h
      rw [hfind, Option.map_some, Option.some.injEq] at hname
      split at h
      · contradiction
      · rename_i hnew
        obtain ⟨hv, hrest⟩ := unit_bind_eq_ok.mp h
        obtain ⟨hget, hall⟩ := ih hrest
        rw [Fields.get?_insert] at hget
        by_cases hkey : f.name = key
        · have hnone : taken.get? key = none := by
            rw [← hkey]
            exact Option.not_isSome_iff_eq_none.mp hnew
          rw [if_pos hkey.symm] at hget
          rw [Fields.under_cons_of_mem (hname.mpr hkey), hget, hnone]
          refine ⟨rfl, List.forall_mem_cons.mpr ⟨?_, hall⟩⟩
          exact hcheck f (List.mem_of_find?_eq_some hfind) v hv
        · rw [if_neg (Ne.symm hkey)] at hget
          rw [Fields.under_cons_of_not_mem (fun hmem => hkey (hname.mp hmem))]
          exact ⟨hget, hall⟩

end Json.Record

namespace Grant

/-! ## What a value denotes -/

/-- The text of a field stands under one of its names, and is empty if nothing does. -/
def Spelled (members : Fields Json) (names : List String) (text : String) : Prop :=
  members.under names = [.str text] ∨ members.under names = [] ∧ text = ""

/-- A grant is written as an object, or as the list of its fields. -/
inductive Denotes : Json → Grant → Prop
  | object {members : Fields Json} {g : Grant}
    (hname : Spelled members ["bucket_name"] g.bucketName)
    (hregion : Spelled members ["region", "cluster"] g.region)
    (hpermissions : Spelled members ["permissions"] g.permissions) : Denotes (.obj members) g
  | list {texts : List String} (hshort : texts.length ≤ 3) :
    Denotes (.strings texts)
      { bucketName := texts.getD 0 "", region := texts.getD 1 "", permissions := texts.getD 2 "" }

theorem check_eq_ok (f : Json.Field) (hf : f ∈ fields) (v : Json) :
    f.check v = .ok () ↔ ∃ s, v = .str s := by
  have hcheck : f.check = fun v => (Json.Decoder.string v).map fun _ => () := by
    simp only [fields, List.mem_cons, List.not_mem_nil, or_false] at hf
    rcases hf with rfl | rfl | rfl <;> rfl
  rw [hcheck]
  cases v <;> simp [Json.Decoder.string, Json.Decoder.mismatch, Except.map]

/-- The field that a name stands for. -/
theorem find?_isNamed (name : String) :
    (fields.find? (·.isNamed name)).map (·.name) =
      if name = "bucket_name" then some "bucket_name"
      else if name = "region" ∨ name = "cluster" then some "region"
      else if name = "permissions" then some "permissions" else none := by
  by_cases h1 : name = "bucket_name"
  · subst h1
    rfl
  · by_cases h2 : name = "region"
    · subst h2
      rfl
    · by_cases h3 : name = "cluster"
      · subst h3
        rfl
      · by_cases h4 : name = "permissions"
        · subst h4
          rfl
        · simp [fields, Json.field, Json.Field.isNamed, h1, h2, h3, h4, Ne.symm h1, Ne.symm h2,
            Ne.symm h4]

theorem mem_bucketName (name : String) : name ∈ ["bucket_name"] ↔
    (fields.find? (·.isNamed name)).map (·.name) = some "bucket_name" := by
  rw [find?_isNamed]
  grind

theorem mem_region (name : String) : name ∈ ["region", "cluster"] ↔
    (fields.find? (·.isNamed name)).map (·.name) = some "region" := by
  rw [find?_isNamed]
  grind

theorem mem_permissions (name : String) : name ∈ ["permissions"] ↔
    (fields.find? (·.isNamed name)).map (·.name) = some "permissions" := by
  rw [find?_isNamed]
  grind

theorem spelled_of_ofMembers {members taken : Fields Json}
    (h : Json.Record.ofMembers fields [] members = .ok taken) {key : String} {names : List String}
    (hnames : ∀ name, name ∈ names ↔ (fields.find? (·.isNamed name)).map (·.name) = some key) :
    Spelled members names (((taken.mapValues fun _ v => v.str?.getD "").get? key).getD "") := by
  obtain ⟨hget, htexts⟩ := Json.Record.ofMembers_under hnames
    (fun f hf v hv => (check_eq_ok f hf v).mp hv) h
  rw [Fields.get?_mapValues]
  cases htaken : taken.get? key with
  | none =>
    rw [htaken] at hget
    exact Or.inr ⟨hget.symm, rfl⟩
  | some v =>
    rw [htaken] at hget
    have hunder : members.under names = [v] := hget.symm
    obtain ⟨s, rfl⟩ := htexts v (by simp [hunder])
    exact Or.inl hunder

theorem denotes_of_ofMembers {members taken : Fields Json}
    (h : Json.Record.ofMembers fields [] members = .ok taken) :
    Denotes (.obj members) (ofTexts (taken.mapValues fun _ v => v.str?.getD "")) :=
  .object (spelled_of_ofMembers h mem_bucketName) (spelled_of_ofMembers h mem_region)
    (spelled_of_ofMembers h mem_permissions)

/-- A list that is read field by field holds texts only, and not more than there are fields. -/
theorem texts_of_ofItems {expected : String} {length index : Nat} {rest : List Json.Field}
    (hrest : ∀ f ∈ rest, f ∈ fields) {items : List Json} {taken : Fields Json}
    (h : Json.Record.ofItems expected length index rest items = .ok taken) :
    ∃ texts : List String, items = texts.map .str ∧ texts.length ≤ rest.length := by
  induction rest generalizing index items taken with
  | nil =>
    cases items with
    | nil => exact ⟨[], rfl, Nat.le_refl 0⟩
    | cons v more => contradiction
  | cons f rest ih =>
    obtain ⟨hf, hrest⟩ := List.forall_mem_cons.mp hrest
    cases items with
    | nil => exact ⟨[], rfl, Nat.zero_le _⟩
    | cons v more =>
      obtain ⟨hv, hmore⟩ := unit_bind_eq_ok.mp h
      obtain ⟨left, hleft, -⟩ := bind_eq_ok.mp hmore
      obtain ⟨s, rfl⟩ := (check_eq_ok f hf v).mp hv
      obtain ⟨texts, rfl, hlength⟩ := ih hrest hleft
      exact ⟨s :: texts, rfl, Nat.succ_le_succ hlength⟩

theorem decode_strings {texts : List String} (h : texts.length ≤ 3) :
    decode (.strings texts) = .ok
      { bucketName := texts.getD 0 "", region := texts.getD 1 "", permissions := texts.getD 2 "" }
    := by
  match texts, h with
  | [], _ => rfl
  | [_], _ => rfl
  | [_, _], _ => rfl
  | [_, _, _], _ => rfl

theorem denotes_of_decode {v : Json} {g : Grant} (h : decode v = .ok g) : Denotes v g := by
  obtain ⟨taken, htaken, hok⟩ := bind_eq_ok.mp h
  cases v with
  | obj members =>
    obtain ⟨read, hread, hmissing⟩ := bind_eq_ok.mp htaken
    have hsame : read = taken := by
      split at hmissing
      · contradiction
      · exact Except.ok.inj hmissing
    obtain rfl := Except.ok.inj hok
    exact denotes_of_ofMembers (hsame ▸ hread)
  | arr items =>
    obtain ⟨texts, rfl, hlength⟩ := texts_of_ofItems (fun f hf => hf) htaken
    have hdecode := decode_strings hlength
    rw [Json.strings, h] at hdecode
    obtain rfl := Except.ok.inj hdecode
    exact .list hlength
  | _ => contradiction

theorem decode_toJson (g : Grant) : decode g.toJson = .ok g := rfl

end Grant

end CloudGate
