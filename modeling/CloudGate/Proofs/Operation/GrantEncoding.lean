import CloudGate.Operation.ObjectStorage
import CloudGate.Proofs.Json.Agreement
import CloudGate.Proofs.Operation.GrantText

/-!
The two ways to give grants, as a value and as the JSON text of the value.

* `agree_field`: a field takes texts only.
* `agree_readMembers`, `agree_readItems`: the members of a record, and its elements in list form, by
  induction on them.
* `agree_read`: records.
* `encodings_agree`: so a call may give its grants either way.
-/

namespace CloudGate.Grant

open Json (Agree Stops entries memberText escapeChar)

/-! ## Fields -/

/-- A field takes texts only. -/
theorem agree_field {f : Json.Field} (hf : f ∈ fields) {v : Json} (hvalid : v.IsValid)
    (behind : List Char) :
    Agree (fun text _ => v = .str text) behind (Json.readText (v.render.toList ++ behind))
      (f.check v) := by
  rcases v.text_or_other with ⟨s, rfl⟩ | hother
  · rw [Json.render, Json.readText_str, check_text hf]
    exact .ok rfl
  · refine .of_ne_ok (Json.readText_ne_ok hvalid hother behind) fun _ hok => ?_
    obtain ⟨s, hs⟩ := (check_eq_ok f hf v).mp hok
    exact hother s hs

/-! ## Members -/

/-- The texts that were read are those that were taken from the value. -/
abbrev SameTexts (texts : Fields String) (taken : Fields Json) : Prop := taken = asValues texts

/-- A member behind its opening quote, and then the others. -/
def readMember (texts : Fields String) (steps : Nat) (cs : List Char) :
    Except Json.Fault (Fields String × List Char) := do
  let (key, rest) ← Json.readString cs
  match fields.find? (·.isNamed key) with
  | none =>
    let (_, rest) ← Json.skipValue (← Json.readColon rest)
    readMembers texts false steps rest
  | some f =>
    if texts.contains f.name then
      Json.failAt (reportPlace rest) (.shape (.duplicateField f.name))
    else
      let (text, rest) ← Json.readText (← Json.readColon rest)
      readMembers (texts.insert f.name text) false steps rest

theorem readMembers_first (texts : Fields String) (steps : Nat) (cs : List Char) :
    readMembers texts true (steps + 1) ('"' :: cs) = readMember texts steps cs := rfl

theorem readMembers_next (texts : Fields String) (steps : Nat) (cs : List Char) :
    readMembers texts false (steps + 1) (',' :: '"' :: cs) = readMember texts steps cs := rfl

/-- A member that nobody asks for is passed over, whatever it holds. -/
theorem agree_readMember {texts : Fields String} {p : String × Json} (hvalid : p.2.IsValid)
    {mid behind : List Char} (hstops : Stops mid) {steps : Nat} {rest : Fields Json}
    (hmore : ∀ texts, Agree SameTexts behind (readMembers texts false steps mid)
      (Json.Record.ofMembers fields (asValues texts) rest)) :
    Agree SameTexts behind
      (readMember texts steps
        (p.1.toList.flatMap escapeChar ++ '"' :: ':' :: (p.2.render.toList ++ mid)))
      (Json.Record.ofMembers fields (asValues texts) (p :: rest)) := by
  obtain ⟨name, v⟩ := p
  unfold readMember Json.Record.ofMembers
  rw [Json.readString_escaped]
  show Agree SameTexts behind (match fields.find? (·.isNamed name) with
    | none => _
    | some f => _) _
  cases hfind : fields.find? (·.isNamed name) with
  | none =>
    have hskip := Json.skipValue_written hvalid hstops
    show Agree SameTexts behind (Json.skipValue (v.render.toList ++ mid) >>= _) _
    rw [hskip]
    exact hmore texts
  | some f =>
    have hf : f ∈ fields := List.mem_of_find?_eq_some hfind
    simp only [contains_asValues]
    by_cases htaken : texts.contains f.name = true
    · rw [if_pos htaken, if_pos htaken]
      exact .error _ _
    · rw [if_neg htaken, if_neg htaken]
      show Agree SameTexts behind (Json.readText (v.render.toList ++ mid) >>= _) (f.check v >>= _)
      refine (agree_field hf hvalid mid).bind ?_
      rintro text ⟨⟩ - rfl
      have hinsert := hmore (texts.insert f.name text)
      rwa [asValues_insert] at hinsert

/-- The members behind the first one. -/
theorem agree_readMore {members : Fields Json} (hvalid : ∀ p ∈ members, p.2.IsValid)
    (texts : Fields String) {steps : Nat} (hsteps : members.length < steps)
    (behind : List Char) :
    Agree SameTexts behind
      (readMembers texts false steps
        (members.flatMap (fun p => ',' :: memberText p) ++ '\x7d' :: behind))
      (Json.Record.ofMembers fields (asValues texts) members) := by
  induction members generalizing texts steps with
  | nil =>
    obtain ⟨steps, rfl⟩ := Nat.exists_eq_succ_of_ne_zero (Nat.ne_of_gt hsteps)
    exact .ok rfl
  | cons p rest ih =>
    obtain ⟨hp, hrest⟩ := List.forall_mem_cons.mp hvalid
    obtain ⟨steps, rfl⟩ := Nat.exists_eq_succ_of_ne_zero (Nat.ne_of_gt (Nat.zero_lt_of_lt hsteps))
    have hstops := Json.stops_entries memberText rest '\x7d' (by decide) behind
    rw [List.flatMap_cons, List.cons_append, List.cons_append, List.append_assoc,
      Json.memberText_eq, readMembers_next]
    exact agree_readMember hp hstops fun texts => ih hrest texts (Nat.lt_of_succ_lt_succ hsteps)

theorem agree_readMembers {members : Fields Json} (hvalid : ∀ p ∈ members, p.2.IsValid)
    {steps : Nat} (hsteps : members.length < steps) (behind : List Char) :
    Agree SameTexts behind
      (readMembers [] true steps (entries memberText members ++ '\x7d' :: behind))
      (Json.Record.ofMembers fields [] members) := by
  obtain ⟨steps, rfl⟩ := Nat.exists_eq_succ_of_ne_zero (Nat.ne_of_gt (Nat.zero_lt_of_lt hsteps))
  cases members with
  | nil => exact .ok rfl
  | cons p rest =>
    obtain ⟨hp, hrest⟩ := List.forall_mem_cons.mp hvalid
    have hstops := Json.stops_entries memberText rest '\x7d' (by decide) behind
    rw [entries, List.append_assoc, Json.memberText_eq, readMembers_first]
    exact agree_readMember hp hstops fun texts =>
      agree_readMore hrest texts (Nat.lt_of_succ_lt_succ hsteps) behind

/-! ## Elements -/

/-- The items are texts, and each is taken for the field in its place. -/
def TakenInOrder (fs : List Json.Field) (items : List Json) (texts texts' : Fields String) : Prop :=
  ∃ given : List String, items = given.map .str ∧ given.length ≤ fs.length ∧
    texts' = (fs.zip given).foldl (fun texts p => texts.insert p.1.name p.2) texts

section Elements

variable {expected : String} {length : Nat} {fs : List Json.Field}

/-- An element, and then the others. -/
def readItem (texts : Fields String) (f : Json.Field) (fs : List Json.Field) (cs : List Char) :
    Except Json.Fault (Fields String × List Char) := do
  let (text, rest) ← Json.readText cs
  readItems (texts.insert f.name text) false fs rest

theorem readItems_first (texts : Fields String) (f : Json.Field) {cs : List Char}
    (h : Json.Opens cs) : readItems texts true (f :: fs) cs = readItem texts f fs cs := by
  cases cs with
  | nil => contradiction
  | cons c rest =>
    rw [readItems, Json.skipSpace_of_not h.1]
    split
    · contradiction
    · rename_i heq
      exact absurd (List.cons.inj heq).1 h.2
    · rfl

theorem readItems_next (texts : Fields String) (f : Json.Field) {cs : List Char}
    (h : Json.Opens cs) :
    readItems texts false (f :: fs) (',' :: cs) = readItem texts f fs cs := by
  cases cs with
  | nil => contradiction
  | cons c rest =>
    have hcomma : Json.skipSpace (',' :: c :: rest) = ',' :: c :: rest := rfl
    rw [readItems, hcomma]
    split
    · contradiction
    · rename_i heq
      exact absurd (List.cons.inj heq).1 (by decide)
    · rename_i heq
      obtain ⟨rfl, rfl⟩ := List.cons.inj heq
      simp only [Bool.false_eq_true, ↓reduceIte, Json.skipSpace_of_not h.1]
      split
      · contradiction
      · rename_i heq
        exact absurd (List.cons.inj heq).1 h.2
      · rfl

/-- A list does not end before one more element. -/
theorem readListEnd_next {cs after : List Char} : Json.readListEnd (',' :: cs) ≠ .ok after := by
  intro h
  have hcomma : Json.skipSpace (',' :: cs) = ',' :: cs := rfl
  unfold Json.readListEnd at h
  simp only [hcomma] at h
  split at h <;> contradiction

theorem ofItems_nil (expected : String) (length index : Nat) (hfs : ∀ f ∈ fs, f ∈ fields) :
    ∃ taken, Json.Record.ofItems expected length index fs [] = .ok taken := by
  induction fs generalizing index with
  | nil => exact ⟨_, rfl⟩
  | cons f rest ih =>
    obtain ⟨hf, hrest⟩ := List.forall_mem_cons.mp hfs
    have homitted : f.presence = .omitted := by
      simp only [fields, List.mem_cons, List.not_mem_nil, or_false] at hf
      rcases hf with rfl | rfl | rfl <;> rfl
    rw [Json.Record.ofItems, if_pos homitted]
    exact ih (index + 1) hrest

theorem agree_readItem {f : Json.Field} (hf : f ∈ fields) {v : Json} (hvalid : v.IsValid)
    {items : List Json} {index : Nat} {mid behind : List Char}
    (hmore : ∀ texts, Agree (fun texts' _ => TakenInOrder fs items texts texts') behind
      (readItems texts false fs mid) (Json.Record.ofItems expected length (index + 1) fs items))
    (texts : Fields String) :
    Agree (fun texts' _ => TakenInOrder (f :: fs) (v :: items) texts texts') behind
      (readItem texts f fs (v.render.toList ++ mid))
      (Json.Record.ofItems expected length index (f :: fs) (v :: items)) := by
  unfold readItem Json.Record.ofItems
  refine (agree_field hf hvalid mid).bind ?_
  rintro text ⟨⟩ - rfl
  refine (hmore (texts.insert f.name text)).map ?_
  rintro texts' _ ⟨given, rfl, hlength, rfl⟩
  exact ⟨text :: given, rfl, Nat.succ_le_succ hlength, rfl⟩

/-- The elements behind the first one: there may be fewer than fields, but not more. -/
theorem agree_readMoreItems (hfs : ∀ f ∈ fs, f ∈ fields) {items : List Json}
    (hvalid : ∀ v ∈ items, v.IsValid) (index : Nat) (texts : Fields String)
    (behind : List Char) :
    Agree (fun texts' _ => TakenInOrder fs items texts texts') behind
      (readItems texts false fs
        (items.flatMap (fun v => ',' :: v.render.toList) ++ ']' :: behind))
      (Json.Record.ofItems expected length index fs items) := by
  induction fs generalizing items index texts with
  | nil =>
    cases items with
    | nil => exact .ok ⟨[], rfl, Nat.le_refl _, rfl⟩
    | cons v rest =>
      refine .of_ne_ok (fun p hp => ?_) fun _ h => nomatch h
      obtain ⟨after, hend, -⟩ := bind_eq_ok.mp hp
      exact readListEnd_next hend
  | cons f fs ih =>
    obtain ⟨hf, hfs⟩ := List.forall_mem_cons.mp hfs
    cases items with
    | nil =>
      obtain ⟨taken, htaken⟩ :=
        ofItems_nil expected length index (List.forall_mem_cons.mpr ⟨hf, hfs⟩)
      rw [htaken]
      exact .ok ⟨[], rfl, Nat.zero_le _, by rw [List.zip_nil_right]; rfl⟩
    | cons v rest =>
      obtain ⟨hv, hrest⟩ := List.forall_mem_cons.mp hvalid
      rw [List.flatMap_cons, List.cons_append, List.cons_append, List.append_assoc,
        readItems_next texts f (hv.opens.append _)]
      exact agree_readItem hf hv (fun texts => ih hfs hrest (index + 1) texts) texts

theorem agree_readItems {items : List Json} (hvalid : ∀ v ∈ items, v.IsValid)
    (behind : List Char) :
    Agree (fun texts _ => TakenInOrder fields items [] texts) behind
      (readItems [] true fields (entries (fun v => v.render.toList) items ++ ']' :: behind))
      (Json.Record.ofItems expected length 0 fields items) := by
  cases items with
  | nil => exact .ok ⟨[], rfl, Nat.zero_le _, rfl⟩
  | cons v rest =>
    obtain ⟨hv, hrest⟩ := List.forall_mem_cons.mp hvalid
    rw [entries, List.append_assoc, fields, readItems_first _ _ (hv.opens.append _)]
    refine agree_readItem (List.mem_cons_self ..) hv (fun texts => ?_) []
    exact agree_readMoreItems (fun f hf => List.mem_cons_of_mem _ hf) hrest 1 texts behind

end Elements

/-! ## Records -/

/-- No field has to be there. -/
theorem members_obj (members : Fields Json) :
    Json.Record.members typeName fields (.obj members) =
      Json.Record.ofMembers fields [] members := by
  unfold Json.Record.members
  cases h : Json.Record.ofMembers fields [] members with
  | error e =>
    simp only [h]
    rfl
  | ok taken =>
    simp only [h]
    rfl

theorem decode_obj (members : Fields Json) :
    decode (.obj members) = (Json.Record.ofMembers fields [] members >>= fun taken =>
      .ok (ofTexts (taken.mapValues fun _ v => v.str?.getD ""))) := by
  rw [decode, members_obj]

/-- A value that is neither an object nor a list is no record. -/
theorem decode_other {v : Json} (hlist : ∀ items, v ≠ .arr items)
    (hobject : ∀ members, v ≠ .obj members) (g : Grant) : decode v ≠ .ok g := by
  intro h
  cases denotes_of_decode h with
  | object => exact hobject _ rfl
  | list => exact hlist _ rfl

theorem read_other {v : Json} (h : v.IsValid) (hlist : ∀ items, v ≠ .arr items)
    (hobject : ∀ members, v ≠ .obj members) (behind : List Char) (p : Grant × List Char) :
    read (v.render.toList ++ behind) ≠ .ok p := by
  obtain ⟨c, more, hcs, hbegins⟩ := h.begins
  rw [hcs, List.cons_append]
  unfold read
  rw [Json.skipSpace_of_not hbegins.notSpace]
  simp only
  split
  · contradiction
  · rename_i hbrace
    obtain ⟨members, hv⟩ := hbegins.brace (List.cons.inj hbrace).1
    exact absurd hv (hobject members)
  · rename_i hbracket
    obtain ⟨items, hv⟩ := hbegins.bracket (List.cons.inj hbracket).1
    exact absurd hv (hlist items)
  · exact Json.mismatchAt_ne_ok _ _ p

theorem decode_arr (items : List Json) :
    decode (.arr items) =
      (Json.Record.ofItems (typeName ++ " with " ++ toString fields.length ++ " elements")
        items.length 0 fields items >>= fun taken =>
          .ok (ofTexts (taken.mapValues fun _ v => v.str?.getD ""))) := rfl

theorem agree_read {v : Json} (h : v.IsValid) (behind : List Char) :
    Agree Eq behind (read (v.render.toList ++ behind)) (decode v) := by
  cases v with
  | obj members =>
    cases h with
    | obj hmembers =>
      have hne : ∀ p ∈ members, memberText p ≠ [] := by
        intro p _
        simp [memberText]
      have hagree := agree_readMembers hmembers (Json.length_lt_entries hne '\x7d' behind) behind
      rw [Json.toList_render_obj, List.cons_append, List.append_assoc, List.singleton_append,
        decode_obj]
      refine hagree.bind ?_
      rintro texts _ - rfl
      rw [texts_asValues]
      exact .ok rfl
  | arr items =>
    cases h with
    | arr hitems =>
      rw [Json.toList_render_arr, List.cons_append, List.append_assoc, List.singleton_append,
        decode_arr]
      refine (agree_readItems hitems behind).bind ?_
      rintro _ taken hok ⟨given, rfl, hlength, rfl⟩
      have hdecode := decode_arr (given.map .str)
      rw [hok] at hdecode
      refine Agree.ok ?_
      rw [ofTexts_zip hlength]
      exact Except.ok.inj ((decode_strings hlength).symm.trans hdecode)
  | _ =>
    exact .of_ne_ok (read_other h (fun _ => Json.noConfusion) (fun _ => Json.noConfusion) behind)
      (decode_other (fun _ => Json.noConfusion) fun _ => Json.noConfusion)

/-! ## Lists -/

/-- A list of grants is read from its text as it is decoded. -/
theorem agree_parseList {v : Json} (h : v.IsValid) :
    (∃ grants, parseList v.render.toList = .ok grants ∧
        Json.Decoder.list decode v = .ok grants) ∨
      ∃ e e', parseList v.render.toList = .error (invalid e) ∧
        Json.Decoder.list decode v = .error e' := by
  have hagree := Json.agree_readListOf h (fun hv cs => agree_read hv cs) []
  rw [List.append_nil] at hagree
  unfold parseList
  rcases hagree.readAll with ⟨grants, _, hread, hdecode, rfl⟩ | ⟨fault, e, hread, hdecode⟩
  · rw [hread]
    exact Or.inl ⟨grants, rfl, hdecode⟩
  · rw [hread]
    exact Or.inr ⟨_, e, rfl, hdecode⟩

theorem ofJson_value {v : Json} (hnull : v ≠ .null) (hother : ∀ s, v ≠ .str s) :
    ofJson v = match Json.Decoder.list decode v with
      | .ok grants => .ok grants
      | .error e => .error (invalid e.message) := by
  cases v with
  | null => contradiction
  | str s => exact absurd rfl (hother s)
  | _ => rfl

theorem ofJson_render {v : Json} (h : v.IsValid) :
    ofJson (.str v.render) = parseList v.render.toList := by
  rw [ofJson, h.not_blank, if_neg Bool.false_ne_true]

/-! ## Calls -/

/-- The operation looks at the label and at the grants. -/
theorem createAccessKey_eq_ok (call : ToolCall) :
    Operation.createAccessKey.check call = .ok () ↔
      Rule.accessKeyLabel (call.text "label") = .ok () ∧
        ∃ grants, ofCall call = .ok grants ∧ ∀ g ∈ grants, g.check = .ok () := by
  have hgrants : Operation.bucketAccess call = .ok () ↔
      ∃ grants, ofCall call = .ok grants ∧ ∀ g ∈ grants, g.check = .ok () := by
    unfold Operation.bucketAccess
    cases ofCall call with
    | error e => simp
    | ok grants => simp [Verdict.each_eq_ok]
  rw [ArgumentRules.check_eq_ok, ← hgrants]
  simp [Operation.createAccessKey, Operation.textual]

/-- Grants may be given as a value that is neither null nor a text, or as the JSON text of the
value: the grants are the same, or both are invalid. So an access key is made for both calls, or for
neither. -/
theorem encodings_agree {v : Json} (hvalid : v.IsValid) (hnull : v ≠ .null)
    (hother : ∀ s, v ≠ .str s) {call call' : ToolCall} (hcall : call.get? argumentName = some v)
    (hcall' : call'.get? argumentName = some (.str v.render)) :
    ((∃ grants, ofCall call = .ok grants ∧ ofCall call' = .ok grants) ∨
        ∃ e e', ofCall call = .error e ∧ ofCall call' = .error e' ∧
          e.kind = .invalidFormat ∧ e'.kind = .invalidFormat) ∧
      ((∀ key, key ≠ argumentName → call'.get? key = call.get? key) →
        (Operation.createAccessKey.check call = .ok () ↔
          Operation.createAccessKey.check call' = .ok ())) := by
  have hread : (∃ grants, ofCall call = .ok grants ∧ ofCall call' = .ok grants) ∨
      ∃ e e', ofCall call = .error e ∧ ofCall call' = .error e' ∧
        e.kind = .invalidFormat ∧ e'.kind = .invalidFormat := by
    simp only [ofCall, hcall, hcall', ofJson_render hvalid, ofJson_value hnull hother]
    rcases agree_parseList hvalid with ⟨grants, htext, hvalue⟩ | ⟨e, e', htext, hvalue⟩
    · exact Or.inl ⟨grants, by rw [hvalue], htext⟩
    · exact Or.inr ⟨invalid e'.message, invalid e, by rw [hvalue], htext, rfl, rfl⟩
  refine ⟨hread, fun hsame => ?_⟩
  have hlabel : call'.text "label" = call.text "label" := by
    simp only [ToolCall.text, ToolCall.string?, hsame "label" (by decide)]
  rw [createAccessKey_eq_ok, createAccessKey_eq_ok, hlabel]
  rcases hread with ⟨grants, hok, hok'⟩ | ⟨e, e', herror, herror', -⟩
  · rw [hok, hok']
  · simp [herror, herror']

/-- Both forms of a grant, with the region under its other name and a member that nobody asks
for. -/
theorem encodings_agree_two :
    let v : Json := .arr [
      .obj [("bucket_name", .str "logs"), ("cluster", .str "us-east-1"),
        ("note", .arr [.arr [.int (-7), .null], .obj []]), ("permissions", .str "read_only")],
      .arr [.str "backups", .str "eu-central-1", .str "read_write"]]
    let grants : List Grant :=
      [⟨"logs", "us-east-1", "read_only"⟩, ⟨"backups", "eu-central-1", "read_write"⟩]
    let call (v : Json) : ToolCall :=
      ⟨"create_access_key", [("bucket_access", v), ("label", .str "ci-key")]⟩
    v.IsValid ∧ ofCall (call (.str v.render)) = .ok grants ∧
      Operation.createAccessKey.check (call (.str v.render)) = .ok () := by
  intro v grants call
  have hnumber : (Json.int (-7)).IsValid :=
    .num (show minInt64 ≤ -7 ∧ -7 ≤ maxUInt64 from by decide)
  have hnote : (Json.arr [.arr [.int (-7), .null], .obj []]).IsValid := by
    refine .arr (List.forall_mem_cons.mpr ⟨.arr ?_, List.forall_mem_singleton.mpr (.obj nofun)⟩)
    exact List.forall_mem_cons.mpr ⟨hnumber, List.forall_mem_singleton.mpr .null⟩
  have hvalid : v.IsValid := by
    refine .arr (List.forall_mem_cons.mpr ⟨.obj ?_, List.forall_mem_singleton.mpr (.arr ?_)⟩)
    · simp only [List.forall_mem_cons]
      exact ⟨.str _, .str _, hnote, .str _, nofun⟩
    · simp only [List.forall_mem_cons]
      exact ⟨.str _, .str _, .str _, nofun⟩
  have hvalue : ofCall (call v) = .ok grants := by rfl
  have haccepted : Operation.createAccessKey.check (call v) = .ok () :=
    eq_ok_of_toBool (by decide +kernel)
  have hrest : ∀ key, key ≠ argumentName → (call (.str v.render)).get? key = (call v).get? key := by
    intro key hkey
    have hother : "bucket_access" ≠ key := Ne.symm hkey
    simp [call, ToolCall.get?, Fields.get?, hother]
  have hgiven : (call v).get? argumentName = some v := rfl
  have hgiven' : (call (.str v.render)).get? argumentName = some (.str v.render) := rfl
  obtain ⟨hread, hcheck⟩ :=
    encodings_agree hvalid Json.noConfusion (fun _ => Json.noConfusion) hgiven hgiven'
  refine ⟨hvalid, ?_, (hcheck hrest).mp haccepted⟩
  rcases hread with ⟨read, hok, hok'⟩ | ⟨e, e', herror, -⟩
  · rw [hok', ← hok, hvalue]
  · rw [hvalue] at herror
    contradiction

/-- Null and texts do not stand for their own texts. -/
example : (ofJson .null).toBool = true ∧ (ofJson (.str (Json.render .null))).toBool = false ∧
    (ofJson (.str "")).toBool = true ∧
    (ofJson (.str (Json.render (.str "")))).toBool = false := by decide +kernel

end CloudGate.Grant
