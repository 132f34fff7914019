import CloudGate.Proofs.Json.Skip
import CloudGate.Proofs.Operation.Grant

/-!
Grants in JSON text: they are those of the value that the text stands for.

* `readMembers_cases`, `readItems_cases`: how a record goes on from one member or element.
* `denotes_of_read`: a record that is read from text denotes the grant.
* `denotes_of_parseList`: so do all records of a list.
-/

namespace CloudGate.Grant

open Json (NextEntry)

/-! ## Records -/

/-- A member is passed over if no field has its name, and else its text is taken for the field. -/
inductive TakesMember (taken : Fields String) (key : String) (item : List Char) :
    Fields String → List Char → Prop
  | unknown {rest : List Char} (hfind : fields.find? (·.isNamed key) = none)
    (hskip : Json.skipValue item = .ok ((), rest)) : TakesMember taken key item taken rest
  | field {f : Json.Field} {text : String} {rest : List Char}
    (hfind : fields.find? (·.isNamed key) = some f) (hnew : taken.contains f.name = false)
    (htext : Json.readText item = .ok (text, rest)) :
    TakesMember taken key item (taken.insert f.name text) rest

theorem readMembers_cases {taken taken' : Fields String} {first : Bool} {n : Nat}
    {cs rest : List Char} (h : readMembers taken first (n + 1) cs = .ok (taken', rest)) :
    (Json.skipSpace cs = '}' :: rest ∧ taken' = taken) ∨
      ∃ afterQuote key afterKey item more mid, NextEntry .object first cs ('"' :: afterQuote) ∧
        Json.readString afterQuote = .ok (key, afterKey) ∧ Json.readColon afterKey = .ok item ∧
        TakesMember taken key item more mid ∧
        readMembers more false n mid = .ok (taken', rest) := by
  unfold readMembers at h
  extract_lets start member at h
  have hcs : Json.skipSpace cs = start := rfl
  clear_value start
  have entry : ∀ {afterQuote : List Char}, NextEntry .object first cs ('"' :: afterQuote) →
      member afterQuote = .ok (taken', rest) →
      ∃ afterQuote key afterKey item more mid, NextEntry .object first cs ('"' :: afterQuote) ∧
        Json.readString afterQuote = .ok (key, afterKey) ∧ Json.readColon afterKey = .ok item ∧
        TakesMember taken key item more mid ∧
        readMembers more false n mid = .ok (taken', rest) := by
    intro afterQuote hstart h
    obtain ⟨⟨key, afterKey⟩, hkey, h⟩ := bind_eq_ok.mp h
    simp only at h
    split at h
    · rename_i hfind
      obtain ⟨item, hcolon, h⟩ := bind_eq_ok.mp h
      obtain ⟨⟨⟨⟩, mid⟩, hskip, hmore⟩ := bind_eq_ok.mp h
      exact ⟨afterQuote, key, afterKey, item, taken, mid, hstart, hkey, hcolon,
        .unknown hfind hskip, hmore⟩
    · rename_i f hfind
      split at h
      · contradiction
      · rename_i hnew
        rw [Bool.not_eq_true] at hnew
        obtain ⟨item, hcolon, h⟩ := bind_eq_ok.mp h
        obtain ⟨⟨text, mid⟩, htext, hmore⟩ := bind_eq_ok.mp h
        exact ⟨afterQuote, key, afterKey, item, _, mid, hstart, hkey, hcolon,
          .field hfind hnew htext, hmore⟩
  split at h
  · contradiction
  · obtain ⟨rfl, rfl⟩ := Prod.mk.inj (Except.ok.inj h)
    exact Or.inl ⟨hcs, rfl⟩
  · rename_i c rest' hopen
    refine Or.inr ?_
    split at h
    · rename_i hfirst
      subst hfirst
      split at h
      · rename_i hquote
        subst hquote
        exact entry (.first hcs rfl) h
      · contradiction
    · rename_i hfirst
      rw [Bool.not_eq_true] at hfirst
      subst hfirst
      split at h
      · rename_i hcomma
        subst hcomma
        simp only at h
        split at h
        · contradiction
        · rename_i hquote
          exact entry (hquote ▸ .next hcs) h
        · contradiction
        · contradiction
      · contradiction

theorem readItems_cases {taken taken' : Fields String} {first : Bool} {fs : List Json.Field}
    {cs rest : List Char} (h : readItems taken first fs cs = .ok (taken', rest)) :
    (Json.skipSpace cs = ']' :: rest ∧ taken' = taken) ∨
      ∃ f fs' start text mid, fs = f :: fs' ∧ NextEntry .list first cs start ∧
        Json.readText start = .ok (text, mid) ∧
        readItems (taken.insert f.name text) false fs' mid = .ok (taken', rest) := by
  cases fs with
  | nil =>
    obtain ⟨after, hend, hok⟩ := bind_eq_ok.mp h
    obtain ⟨rfl, rfl⟩ := Prod.mk.inj (Except.ok.inj hok)
    unfold Json.readListEnd at hend
    simp only at hend
    split at hend
    · contradiction
    · rename_i hcs
      obtain rfl := Except.ok.inj hend
      exact Or.inl ⟨hcs, rfl⟩
    · split at hend
      · contradiction
      · contradiction
    · contradiction
  | cons f fs =>
    unfold readItems at h
    simp only at h
    split at h
    · contradiction
    · rename_i hcs
      obtain ⟨rfl, rfl⟩ := Prod.mk.inj (Except.ok.inj h)
      exact Or.inl ⟨hcs, rfl⟩
    · rename_i c more hopen hcs
      refine Or.inr ?_
      split at h
      · rename_i hfirst
        subst hfirst
        rw [hcs] at h
        obtain ⟨⟨text, mid⟩, htext, hmore⟩ := bind_eq_ok.mp h
        exact ⟨f, fs, _, text, mid, rfl, .first hcs (by simpa [Json.Frame.closes] using hopen),
          htext, hmore⟩
      · rename_i hfirst
        rw [Bool.not_eq_true] at hfirst
        subst hfirst
        split at h
        · rename_i hcomma
          subst hcomma
          split at h
          · contradiction
          · contradiction
          · obtain ⟨⟨text, mid⟩, htext, hmore⟩ := bind_eq_ok.mp h
            exact ⟨f, fs, _, text, mid, rfl, .next hcs, htext, hmore⟩
        · contradiction

/-! ## The values of records -/

/-- The members of a record as they are taken from its value. -/
abbrev asValues (texts : Fields String) : Fields Json := texts.mapValues fun _ => .str

theorem asValues_insert (texts : Fields String) (name text : String) :
    asValues (texts.insert name text) = (asValues texts).insert name (.str text) :=
  Fields.mapValues_insert Json.str texts name text

theorem contains_asValues (texts : Fields String) (name : String) :
    (asValues texts).contains name = texts.contains name := by
  simp [Fields.contains, asValues, Fields.get?_mapValues]

theorem check_text {f : Json.Field} (hf : f ∈ fields) (s : String) : f.check (.str s) = .ok () :=
  (check_eq_ok f hf (.str s)).mpr ⟨s, rfl⟩

/-- The value of a member, after its key. -/
abbrev memberValue (inner : Nat) : String → Json.Reader Json :=
  fun _ cs => do Json.readValue inner (← Json.readColon cs)

/-- The members of a record in text are taken like those of its value. -/
theorem ofMembers_of_readMembers {inner : Nat} {first : Bool} {n : Nat} {cs left rest : List Char}
    {texts texts' : Fields String} {members : List (String × Json)}
    (hread : readMembers texts first n cs = .ok (texts', left))
    (hvalue : Json.readMembers (memberValue inner) first n cs = .ok (members, rest)) :
    left = rest ∧
      Json.Record.ofMembers fields (asValues texts) members = .ok (asValues texts') := by
  induction n generalizing first cs texts members with
  | zero => contradiction
  | succ n ih =>
    rcases readMembers_cases hread with
      ⟨hcs, rfl⟩ | ⟨quoted, key, afterKey, item, taken, mid, hstart, hkey, hcolon, htake, hmore⟩
    · rcases Json.readMembers_cases hvalue with ⟨hcs', rfl⟩ | ⟨_, _, _, _, _, _, hstart', -⟩
      · rw [hcs] at hcs'
        exact ⟨(List.cons.inj hcs').2, rfl⟩
      · exact absurd hcs (hstart'.not_closed rfl)
    · rcases Json.readMembers_cases hvalue with
        ⟨hcs', rfl⟩ | ⟨quoted', key', _, v, mid', members', hstart', hkey', hv, hmore', rfl⟩
      · exact absurd hcs' (hstart.not_closed rfl)
      · obtain rfl : quoted' = quoted := (List.cons.inj (hstart'.unique hstart)).2
        rw [hkey, Except.ok.injEq, Prod.mk.injEq] at hkey'
        obtain ⟨rfl, rfl⟩ := hkey'
        obtain ⟨item', hcolon', hitem⟩ := bind_eq_ok.mp hv
        rw [hcolon, Except.ok.injEq] at hcolon'
        subst hcolon'
        unfold Json.Record.ofMembers
        cases htake with
        | unknown hfind hskip =>
          rw [Json.skipValue_of_readValue hitem, Except.ok.injEq, Prod.mk.injEq] at hskip
          obtain ⟨-, rfl⟩ := hskip
          simp only [hfind]
          exact ih hmore hmore'
        | @field f text _ hfind hnew htext =>
          rw [Json.readValue_of_readText htext, Except.ok.injEq, Prod.mk.injEq] at hitem
          obtain ⟨rfl, rfl⟩ := hitem
          obtain ⟨hleft, htaken⟩ := ih hmore hmore'
          have hf : f ∈ fields := List.mem_of_find?_eq_some hfind
          have hfresh : (asValues texts).contains f.name = false :=
            (contains_asValues texts f.name).trans hnew
          simp only [hfind, hfresh, Bool.false_eq_true, ↓reduceIte]
          rw [asValues_insert] at htaken
          exact ⟨hleft, unit_bind_eq_ok.mpr ⟨check_text hf text, htaken⟩⟩

/-- The elements of a record in list form are texts, one for each of the first fields. -/
theorem texts_of_readItems {depth : Nat} {fs : List Json.Field} {first : Bool} {n : Nat}
    {cs left rest : List Char} {texts texts' : Fields String} {items : List Json}
    (hread : readItems texts first fs cs = .ok (texts', left))
    (hvalue : Json.readElements (Json.readValue depth) first n cs = .ok (items, rest)) :
    left = rest ∧ ∃ given : List String, items = given.map .str ∧ given.length ≤ fs.length ∧
      texts' = (fs.zip given).foldl (fun texts p => texts.insert p.1.name p.2) texts := by
  induction n generalizing first fs cs texts items with
  | zero => contradiction
  | succ n ih =>
    rcases readItems_cases hread with
      ⟨hcs, rfl⟩ | ⟨f, fs, start, text, mid, rfl, hstart, htext, hmore⟩
    · rcases Json.readElements_cases hvalue with ⟨hcs', rfl⟩ | ⟨_, _, _, _, hstart', -⟩
      · rw [hcs] at hcs'
        exact ⟨(List.cons.inj hcs').2, [], rfl, Nat.zero_le _, by rw [List.zip_nil_right]; rfl⟩
      · exact absurd hcs (hstart'.not_closed rfl)
    · rcases Json.readElements_cases hvalue with
        ⟨hcs', rfl⟩ | ⟨start', v, mid', items', hstart', hv, hmore', rfl⟩
      · exact absurd hcs' (hstart.not_closed rfl)
      · rw [hstart'.unique hstart, Json.readValue_of_readText htext, Except.ok.injEq,
          Prod.mk.injEq] at hv
        obtain ⟨rfl, rfl⟩ := hv
        obtain ⟨hleft, given, rfl, hlength, htexts⟩ := ih hmore hmore'
        exact ⟨hleft, text :: given, rfl, Nat.succ_le_succ hlength, htexts⟩

theorem texts_asValues (texts : Fields String) :
    ((asValues texts).mapValues fun _ v => v.str?.getD "") = texts := by
  unfold asValues Fields.mapValues
  rw [List.map_map]
  exact List.map_id texts

theorem Spelled.ofList {members : List (String × Json)} {names : List String} {text : String}
    (h : Spelled members names text) : Spelled (Fields.ofList members) names text := by
  have hlength : (Fields.under names members).length ≤ 1 := by
    rcases h with h | ⟨h, -⟩
    · rw [h]
      exact Nat.le_refl 1
    · rw [h]
      exact Nat.zero_le 1
  unfold Spelled
  rwa [Fields.under_ofList hlength]

/-- The members of a record denote the grant that is made of the texts taken from them. -/
theorem denotes_object {texts : Fields String} {members : List (String × Json)}
    (h : Json.Record.ofMembers fields [] members = .ok (asValues texts)) :
    Denotes (Json.object members) (ofTexts texts) := by
  have hdenotes := denotes_of_ofMembers h
  rw [texts_asValues] at hdenotes
  cases hdenotes with
  | object hname hregion hpermissions =>
    exact .object hname.ofList hregion.ofList hpermissions.ofList

theorem ofTexts_zip {given : List String} (h : given.length ≤ 3) :
    ofTexts ((fields.zip given).foldl (fun texts p => texts.insert p.1.name p.2) []) =
      { bucketName := given.getD 0 "", region := given.getD 1 "", permissions := given.getD 2 "" }
    := by
  match given, h with
  | [], _ => rfl
  | [_], _ => rfl
  | [_, _], _ => simp [fields, Json.field, ofTexts, Fields.get?_insert, Fields.get?]
  | [_, _, _], _ => simp [fields, Json.field, ofTexts, Fields.get?_insert]

/-- A record that is read from text denotes the grant that is read. -/
theorem denotes_of_read {depth : Nat} {cs left rest : List Char} {g : Grant} {v : Json}
    (hread : read cs = .ok (g, left)) (hvalue : Json.readValue depth cs = .ok (v, rest)) :
    left = rest ∧ Denotes v g := by
  unfold read at hread
  unfold Json.readValue at hvalue
  simp only at hread hvalue
  split at hread
  · contradiction
  · rename_i more hcs
    simp only [hcs] at hvalue
    cases depth with
    | zero => contradiction
    | succ inner =>
      obtain ⟨⟨texts, last⟩, htexts, hok⟩ := bind_eq_ok.mp hread
      obtain ⟨rfl, rfl⟩ := Prod.mk.inj (Except.ok.inj hok)
      obtain ⟨⟨members, last'⟩, hmembers, hok⟩ := bind_eq_ok.mp hvalue
      obtain ⟨rfl, rfl⟩ := Prod.mk.inj (Except.ok.inj hok)
      obtain ⟨hrest, htaken⟩ := ofMembers_of_readMembers htexts hmembers
      exact ⟨hrest, denotes_object htaken⟩
  · rename_i more hcs
    simp only [hcs] at hvalue
    cases depth with
    | zero => contradiction
    | succ inner =>
      obtain ⟨⟨texts, last⟩, htexts, hok⟩ := bind_eq_ok.mp hread
      obtain ⟨rfl, rfl⟩ := Prod.mk.inj (Except.ok.inj hok)
      obtain ⟨⟨items, last'⟩, hitems, hok⟩ := bind_eq_ok.mp hvalue
      obtain ⟨rfl, rfl⟩ := Prod.mk.inj (Except.ok.inj hok)
      obtain ⟨hrest, given, rfl, hlength, rfl⟩ := texts_of_readItems htexts hitems
      rw [ofTexts_zip hlength]
      exact ⟨hrest, .list hlength⟩
  · exact absurd hread (Json.mismatchAt_ne_ok _ _ _)

theorem readAll_of_parseList {text : List Char} {grants : List Grant}
    (h : parseList text = .ok grants) : Json.readAll (Json.readListOf read) text = .ok grants := by
  unfold parseList at h
  split at h
  · rename_i hok
    rw [hok, Except.ok.inj h]
  · contradiction

/-- A text that can be read as a value and as a list of grants is the list of records that denote
them. -/
theorem denotes_of_parseList {s : String} {v : Json} {grants : List Grant}
    (hv : Json.parse s = .ok v) (h : parseList s.toList = .ok grants) :
    ∃ items, v = .arr items ∧ List.Forall₂ Denotes items grants := by
  obtain ⟨rest, hvalue⟩ := Json.readAll_eq_ok hv
  obtain ⟨left, hread⟩ := Json.readAll_eq_ok (readAll_of_parseList h)
  unfold Json.readListOf at hread
  unfold Json.readValue at hvalue
  simp only at hread hvalue
  split at hread
  · contradiction
  · rename_i more hcs
    simp only [hcs] at hvalue
    obtain ⟨⟨items, last⟩, hitems, hok⟩ := bind_eq_ok.mp hvalue
    obtain ⟨rfl, rfl⟩ := Prod.mk.inj (Except.ok.inj hok)
    obtain ⟨-, hdenotes⟩ := Json.forall₂_of_readElements
      (fun hg hv => denotes_of_read hg hv) hread hitems
    exact ⟨items, rfl, hdenotes.flip⟩
  · exact absurd hread (Json.mismatchAt_ne_ok _ _ _)

end CloudGate.Grant
