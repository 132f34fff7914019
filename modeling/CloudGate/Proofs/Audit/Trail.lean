import CloudGate.Audit.Trail
import CloudGate.Proofs.Disk
import CloudGate.Proofs.Json.ReadBack
import CloudGate.Proofs.Text.Split

/-!
The audit trail over all its sessions. The file holds one line for every event, in their order, and
a line once written stays as it is.

* `linesOf_join`: the lines of a text are what was put on them, since no record breaks its line.
* `record_tells`: a record has type and time beside the members of the payload.
* `record_reread`: of a record only the payload is read otherwise than it was logged.
* `Holds.log`, `Holds.history`: what one event adds to the file, and what all sessions do.
* `history_faithful`: the file is a faithful log, as far as the reader can read the records.
-/

namespace CloudGate

/-! ## Lines -/

namespace Text

/-- Pieces that each end in a separator, with the empty piece behind the last one. -/
theorem splitBy_ended {sep : Char} {pieces : List (List Char)} (h : ∀ p ∈ pieces, sep ∉ p) :
    splitBy sep (pieces.flatMap (· ++ [sep])) = pieces ++ [[]] := by
  induction pieces with
  | nil => rfl
  | cons p rest ih =>
    obtain ⟨hp, hrest⟩ := List.forall_mem_cons.mp h
    have hback : splitBy sep (sep :: rest.flatMap (· ++ [sep])) = [] :: (rest ++ [[]]) := by
      rw [splitBy, if_pos rfl, ih hrest]
    rw [List.flatMap_cons, List.append_assoc, List.singleton_append, splitBy_append hp hback,
      List.append_nil, List.cons_append]

end Text

namespace Audit

theorem linesOf_join {pieces : List String} (h : ∀ p ∈ pieces, '\n' ∉ p.toList) :
    linesOf (String.join (pieces.map (· ++ "\n"))) = pieces := by
  have htext : (String.join (pieces.map (· ++ "\n"))).toList =
      (pieces.map String.toList).flatMap (· ++ ['\n']) := by
    simp [String.toList_join, List.flatMap_map]
  have hsplit : Text.splitBy '\n' (String.join (pieces.map (· ++ "\n"))).toList =
      pieces.map String.toList ++ [[]] := by
    rw [htext]
    refine Text.splitBy_ended fun cs hcs => ?_
    obtain ⟨p, hp, rfl⟩ := List.mem_map.mp hcs
    exact h p hp
  unfold linesOf
  simp only [hsplit, List.getLast?_concat, ↓reduceIte, List.dropLast_concat, List.map_map]
  simp

/-! ## Records -/

/-- What the members of a record tell of an event: its type, its time, and beside them the members
of its payload, or the payload as a whole if it is no object. -/
structure Tells (timestamp : String) (e : Event) (members : Fields Json) : Prop where
  type : members.get? "type" = some (.str e.type)
  timestamp : members.get? "timestamp" = some (.str timestamp)
  own : ∀ own : Fields Json, e.payload = .obj own → own.get? "type" = none →
    own.get? "timestamp" = none → (members.erase "timestamp").erase "type" = own
  data : (∀ own, e.payload ≠ .obj own) →
    (members.erase "timestamp").erase "type" = [("data", e.payload)]

theorem record_obj {e : Event} {own : Fields Json} (h : e.payload = .obj own)
    (timestamp : String) :
    record timestamp e =
      .obj ((own.insert "type" (.str e.type)).insert "timestamp" (.str timestamp)) := by
  unfold record
  rw [h]

theorem record_data {e : Event} (h : ∀ own, e.payload ≠ .obj own) (timestamp : String) :
    record timestamp e =
      .obj [("data", e.payload), ("timestamp", .str timestamp), ("type", .str e.type)] := by
  unfold record
  split
  · rename_i own heq
    exact absurd heq (h own)
  · rfl

theorem record_tells (timestamp : String) (e : Event) :
    ∃ members, record timestamp e = .obj members ∧ Tells timestamp e members := by
  by_cases hobject : ∃ own, e.payload = .obj own
  · obtain ⟨own, hown⟩ := hobject
    refine ⟨_, record_obj hown timestamp, ?_, ?_, ?_, fun hdata => absurd hown (hdata own)⟩
    · simp [Fields.get?_insert]
    · simp [Fields.get?_insert]
    · intro own' hown' htype htime
      obtain rfl := Json.obj.inj (hown.symm.trans hown')
      have hfree : Fields.get? (Fields.insert own "type" (.str e.type)) "timestamp" = none := by
        simpa [Fields.get?_insert] using htime
      rw [Fields.erase_insert hfree, Fields.erase_insert htype]
  · have hdata : ∀ own, e.payload ≠ .obj own := fun own h => hobject ⟨own, h⟩
    refine ⟨_, record_data hdata timestamp, ?_, ?_, fun own h => absurd h (hdata own), fun _ => ?_⟩
    · simp [Fields.get?]
    · simp [Fields.get?]
    · simp [Fields.erase]

/-- An event with its payload as it is read. -/
def Event.reread (e : Event) : Event := ⟨e.type, e.payload.reread⟩

/-- Type and time are texts, so that only the payload of a record is read otherwise. -/
theorem record_reread (timestamp : String) (e : Event) :
    (record timestamp e).reread = record timestamp e.reread := by
  by_cases hobject : ∃ own, e.payload = .obj own
  · obtain ⟨own, hown⟩ := hobject
    have hreread : e.reread.payload = .obj (Fields.mapValues own fun _ => Json.reread) := by
      rw [Event.reread, hown, Json.reread_obj]
    rw [record_obj hown, record_obj hreread, Json.reread_obj, Fields.mapValues_insert,
      Fields.mapValues_insert]
    rfl
  · have hdata : ∀ own, e.payload ≠ .obj own := fun own h => hobject ⟨own, h⟩
    have hreread : ∀ own, e.reread.payload ≠ .obj own := by
      intro own hown
      cases hpayload : e.payload with
      | obj members => exact hdata members hpayload
      | _ =>
        rw [Event.reread, hpayload] at hown
        contradiction
    rw [record_data hdata, record_data hreread, Json.reread_obj]
    rfl

/-- The record of an object is no deeper than the object. -/
theorem record_legible_obj {e : Event} {own : Fields Json} (h : e.payload = .obj own) {depth : Nat}
    (hown : Json.Legible depth e.payload) (timestamp : String) :
    Json.Legible depth (record timestamp e) := by
  rw [record_obj h]
  rw [h] at hown
  cases hown with
  | obj hsorted hmembers =>
    refine .obj ((hsorted.insert _ _).insert _ _) fun p hp => ?_
    rcases Fields.mem_insert hp with rfl | hp
    · exact .str _ _
    · rcases Fields.mem_insert hp with rfl | hp
      · exact .str _ _
      · exact hmembers p hp

/-- Any other payload stands one container deeper. -/
theorem record_legible_data {e : Event} (h : ∀ own, e.payload ≠ .obj own) {depth : Nat}
    (hpayload : Json.Legible depth e.payload) (timestamp : String) :
    Json.Legible (depth + 1) (record timestamp e) := by
  rw [record_data h]
  have hnames : ["data", "timestamp", "type"].Pairwise (· < ·) := by decide
  refine .obj (Fields.sorted_of_names hnames) ?_
  simp only [List.forall_mem_cons, List.not_mem_nil, false_implies, implies_true, and_true]
  exact ⟨hpayload, .str _ _, .str _ _⟩

/-! ## Sessions -/

namespace Trail

/-- The events of a session in their order, each with the time at which it is written. -/
abbrev Session := List (String × Event)

/-- Writes one event to an open trail. -/
def log (path : String) (d : Disk) (entry : String × Event) : Disk :=
  write d path entry.1 [entry.2]

/-- Sessions one after the other. Each opens the trail and writes its events. -/
def history (path : String) (d : Disk) (sessions : List Session) : Disk :=
  sessions.foldl (fun d session => session.foldl (log path) (openAt d path).disk) d

/-- The lines of events that were written one by one. -/
def textOf (entries : List (String × Event)) : String :=
  String.join (entries.map fun p => line p.1 p.2)

/-- A trail that can be written: its folder is there, and so is the file, with this text. -/
structure Holds (d : Disk) (path text : String) : Prop where
  folder : d.HasFolder ((Path.parent? path).getD "")
  file : d.HasFile path text

/-- A trail that is opened for the first time keeps the text of its file. -/
theorem holds_of_openAt {d : Disk} {path : String} (h : (openAt d path).isOpen = true) :
    Holds (openAt d path).disk path ((d.read? path).getD "") := by
  unfold openAt at h ⊢
  simp only at h ⊢
  split at h
  · contradiction
  · rename_i d₁ hfolder
    split at h
    · contradiction
    · rename_i d₂ hfile
      obtain ⟨hfile, hplace⟩ := Disk.openFile_eq_ok hfile
      rw [Disk.read?_createFolders hfolder] at hfile
      have hfolder := (Disk.createFolders_eq_ok hfolder).1
      refine ⟨?_, hfile⟩
      rcases hplace with rfl | ⟨hnone, rfl⟩
      · exact hfolder
      · exact hfolder.put (by simp [hnone]) _

namespace Holds

variable {d : Disk} {path text : String}

/-- Once it could be opened, a trail can be opened again, and nothing on the disk changes. -/
theorem openAt_eq (h : Holds d path text) : openAt d path = { disk := d, isOpen := true } := by
  unfold openAt
  simp only [Disk.createFolders_again h.folder, Disk.openFile_again h.file]

theorem write (h : Holds d path text) (timestamp : String) (events : List Event) :
    Holds (write d path timestamp events) path (text ++ lines timestamp events) := by
  unfold Trail.write
  refine ⟨?_, h.file.append _⟩
  rw [h.file.append_eq]
  exact h.folder.put (by simp [h.file.file]) _

theorem log (h : Holds d path text) (entry : String × Event) :
    Holds (log path d entry) path (text ++ line entry.1 entry.2) := by
  have hline : lines entry.1 [entry.2] = line entry.1 entry.2 := by simp [lines]
  rw [← hline]
  exact h.write entry.1 [entry.2]

/-- The events of a session are added one after the other. -/
theorem session (h : Holds d path text) (entries : List (String × Event)) :
    Holds (entries.foldl (Trail.log path) d) path (text ++ textOf entries) := by
  induction entries generalizing d text with
  | nil => simpa [textOf] using h
  | cons entry rest ih =>
    have hrest := ih (h.log entry)
    simpa [textOf, String.append_assoc] using hrest

/-- Sessions are added one after the other. -/
theorem history (h : Holds d path text) (sessions : List Session) :
    Holds (history path d sessions) path (text ++ textOf sessions.flatten) := by
  induction sessions generalizing d text with
  | nil => simpa [textOf, Trail.history] using h
  | cons entries rest ih =>
    have hrest := ih (h.session entries)
    unfold Trail.history at hrest ⊢
    rw [List.foldl_cons, h.openAt_eq]
    simpa [textOf, String.append_assoc] using hrest

end Holds

/-! ## The log -/

/-- The text of the trail, which is empty as long as there is no file. -/
def fileText (d : Disk) (path : String) : String := (d.read? path).getD ""

theorem Holds.fileText_eq {d : Disk} {path text : String} (h : Holds d path text) :
    fileText d path = text := by
  rw [fileText, h.file.read?]
  rfl

/-- A trail that starts empty, after any number of sessions. -/
theorem fileText_history {d : Disk} {path : String} (hempty : fileText d path = "")
    (hopen : (openAt d path).isOpen = true) (sessions : List Session) :
    fileText (history path d sessions) path = textOf sessions.flatten ∧
      (openAt (history path d sessions) path).isOpen = true := by
  cases sessions with
  | nil => exact ⟨hempty, hopen⟩
  | cons first rest =>
    have hfirst := holds_of_openAt hopen
    rw [← fileText, hempty] at hfirst
    have hall := (hfirst.session first).history rest
    have htext : "" ++ textOf first ++ textOf rest.flatten = textOf (first :: rest).flatten := by
      simp [textOf]
    rw [htext] at hall
    show fileText (history path _ rest) path = _ ∧ (openAt (history path _ rest) path).isOpen = true
    rw [hall.fileText_eq, hall.openAt_eq]
    exact ⟨rfl, rfl⟩

/-- The reader gets from a line what it has to tell of an event at a time. -/
def Told (p : String × Event) (line : String) : Prop :=
  ∃ members, Json.parse line = .ok (.obj members) ∧ Tells p.1 p.2 members

/-- A text that logs events: a line for each in their order, which tells of the event as it is read
if the reader goes deep enough into its record. -/
structure Logs (entries : List (String × Event)) (text : String) : Prop where
  text_eq : text = String.join (entries.map fun p => (record p.1 p.2).render ++ "\n")
  lines_eq : linesOf text = entries.map fun p => (record p.1 p.2).render
  told : List.Forall₂
    (fun p line => Json.Legible Json.maxDepth (record p.1 p.2) → Told (p.1, p.2.reread) line)
    entries (linesOf text)

theorem logs_textOf (entries : List (String × Event)) : Logs entries (textOf entries) := by
  have hlines : linesOf (textOf entries) = entries.map fun p => (record p.1 p.2).render := by
    have hprintable : ∀ text ∈ entries.map fun p => (record p.1 p.2).render,
        '\n' ∉ text.toList := by
      intro text htext
      obtain ⟨p, -, rfl⟩ := List.mem_map.mp htext
      exact (Json.render_printable _).newline_not_mem
    have hjoin := linesOf_join hprintable
    rw [List.map_map] at hjoin
    exact hjoin
  refine ⟨rfl, hlines, ?_⟩
  rw [hlines, List.forall₂_map_right_iff, List.forall₂_same]
  intro p _ hlegible
  obtain ⟨members, hmembers, htells⟩ := record_tells p.1 p.2.reread
  refine ⟨members, ?_, htells⟩
  rw [Json.parse_render hlegible, record_reread, hmembers]

theorem textOf_mono {entries later : List (String × Event)} (h : entries <+: later) :
    (textOf entries).toList <+: (textOf later).toList := by
  obtain ⟨more, rfl⟩ := h
  simp [textOf]

/-- The trail is a faithful log of all sessions, and the next session can open it. What is written
later comes after what is there. Of a payload only the numbers are read otherwise than they were
logged, and all of them are read as close ones. -/
theorem history_faithful {d : Disk} {path : String}
    (hempty : d.read? path = none ∨ d.read? path = some "")
    (hopen : (openAt d path).isOpen = true) (sessions : List Session) :
    Logs sessions.flatten (fileText (history path d sessions) path) ∧
      (openAt (history path d sessions) path).isOpen = true ∧
      (∀ later : List Session, sessions.flatten <+: later.flatten →
        (fileText (history path d sessions) path).toList <+:
          (fileText (history path d later) path).toList) ∧
      ∀ n : Json.Number, n.IsValid → n.Close n.reread := by
  have htext : fileText d path = "" := by
    rcases hempty with h | h <;> simp [fileText, h]
  have hall := fileText_history htext hopen
  refine ⟨?_, (hall sessions).2, fun later hlater => ?_, fun n hn => (Json.parse_number hn).2⟩
  · rw [(hall sessions).1]
    exact logs_textOf _
  · rw [(hall sessions).1, (hall later).1]
    exact textOf_mono hlater

/-- Two sessions, with texts that break the line, a fraction and a payload that is no object. -/
theorem history_faithful_restart :
    let d : Disk := {}
    let path := "logs/audit.jsonl"
    let sessions : List Session :=
      [[("09:00", ⟨"gate_refused", .obj [("note", .str "one\ntwo \"three\" \x01"),
          ("share", .num (.real ⟨false, 4503599627370496, -54⟩))]⟩)],
        [("10:00", ⟨"operation_failed", .arr [.int (-7), .null, .bool true]⟩)]]
    (d.read? path = none ∧ (openAt d path).isOpen = true ∧
      ∀ p ∈ sessions.flatten, Json.Legible Json.maxDepth (record p.1 p.2)) ∧
    Logs sessions.flatten (fileText (history path d sessions) path) ∧
      (openAt (history path d sessions) path).isOpen = true ∧
      (∀ later : List Session, sessions.flatten <+: later.flatten →
        (fileText (history path d sessions) path).toList <+:
          (fileText (history path d later) path).toList) ∧
      ∀ n : Json.Number, n.IsValid → n.Close n.reread := by
  have habsent : Disk.read? {} "logs/audit.jsonl" = none := by decide +kernel
  have hopen : (openAt {} "logs/audit.jsonl").isOpen = true := by decide +kernel
  have hshare : (Json.Number.real ⟨false, 4503599627370496, -54⟩).IsValid := by
    have hvalid : (⟨false, 4503599627370496, -54⟩ : Decimal.Binary64).IsValid := by decide
    exact hvalid
  have hcount : (Json.Number.int (-7)).IsValid := ⟨by decide, by decide⟩
  refine ⟨⟨habsent, hopen, ?_⟩, history_faithful (.inl habsent) hopen _⟩
  simp only [List.flatten_cons, List.flatten_nil, List.append_nil, List.cons_append,
    List.nil_append, List.forall_mem_cons, List.not_mem_nil, false_implies, implies_true, and_true]
  refine ⟨record_legible_obj rfl ?_ _, record_legible_data (fun _ => Json.noConfusion) ?_ _⟩
  · refine .obj (Fields.sorted_of_names (by decide)) ?_
    simp only [List.forall_mem_cons, List.not_mem_nil, false_implies, implies_true, and_true]
    exact ⟨.str _ _, .num _ hshare⟩
  · refine .arr ?_
    simp only [List.forall_mem_cons, List.not_mem_nil, false_implies, implies_true, and_true]
    exact ⟨.num _ hcount, .null _, .bool _ _⟩

/-- A null in a list in a list, and so on. -/
def nest : Nat → Json
  | 0 => .null
  | depth + 1 => .arr [nest depth]

theorem toList_render_nest (depth : Nat) : (nest depth).render.toList =
    List.replicate depth '[' ++ ("null".toList ++ List.replicate depth ']') := by
  induction depth with
  | zero => simp [nest, Json.render]
  | succ depth ih =>
    rw [nest, Json.toList_render_arr, Json.entries, ih, List.replicate_succ, List.replicate_succ']
    simp

theorem nest_starts (depth : Nat) (behind : List Char) :
    List.replicate depth '[' <+: (nest depth).render.toList ++ behind := by
  rw [toList_render_nest, List.append_assoc]
  exact List.prefix_append ..

/-- A payload that the reader would just go into lies too deep in its record. -/
theorem parse_record_nest {n : Nat} (h : Json.maxDepth = n + 1) (timestamp type : String) :
    ∃ fault, Json.parse (record timestamp ⟨type, nest (n + 1)⟩).render = .error fault := by
  have hdata : ∀ own, (⟨type, nest (n + 1)⟩ : Event).payload ≠ .obj own :=
    fun _ => Json.noConfusion
  have hdeep : ∀ behind, ∃ fault,
      Json.readValue n ((nest (n + 1)).render.toList ++ behind) = .error fault :=
    fun behind => Json.readValue_tooDeep (nest_starts (n + 1) behind)
  have hrecord := @Json.readValue_obj_error n ("data", nest (n + 1))
    [("timestamp", .str timestamp), ("type", .str type)] hdeep []
  rw [record_data hdata]
  refine Json.parse_error ?_
  rw [h]
  exact hrecord

/-- The number of a member, if the text is that of an object with such a member. -/
def memberNumber? (text name : String) : Option Json.Number :=
  match Json.parse text with
  | .ok v =>
    match v.get? name with
    | some (.num n) => some n
    | _ => none
  | .error _ => none

/-- The lists of one record stand too deep in one another for the reader, and the number of the
other is read as its neighbour. -/
theorem history_untold :
    let path := "audit.jsonl"
    let deep : String × Event := ("09:00", ⟨"gate_refused", nest 127⟩)
    let small : String × Event :=
      ("09:00", ⟨"gate_refused", .obj [("share", .num (.real ⟨false, 6407961107762730, -319⟩))]⟩)
    ¬ List.Forall₂ Told [deep] (linesOf (fileText (history path {} [[deep]]) path)) ∧
      ¬ List.Forall₂ Told [small] (linesOf (fileText (history path {} [[small]]) path)) := by
  intro path deep small
  have hline : ∀ p, linesOf (fileText (history path {} [[p]]) path) =
      [(record p.1 p.2).render] := by
    intro p
    have htext := @fileText_history {} path (by decide +kernel) (by decide +kernel) [[p]]
    rw [htext.1]
    exact (logs_textOf [p]).lines_eq
  rw [hline, hline, List.forall₂_cons, List.forall₂_cons]
  refine ⟨fun hdeep => ?_, fun hsmall => ?_⟩
  · obtain ⟨⟨members, hparse, -⟩, -⟩ := hdeep
    obtain ⟨fault, hfault⟩ := parse_record_nest (n := 126) rfl "09:00" "gate_refused"
    cases hfault.symm.trans hparse
  · obtain ⟨⟨members, hparse, htells⟩, -⟩ := hsmall
    have hread : memberNumber? (record small.1 small.2).render "share" =
        some (.real ⟨false, 6407961107762731, -319⟩) := by decide +kernel
    have hown := htells.own _ rfl rfl rfl
    have hshare : Fields.get? members "share" =
        some (.num (.real ⟨false, 6407961107762730, -319⟩)) := by
      have hkey : "share" ≠ "timestamp" ∧ "share" ≠ "type" := by decide
      rw [← Fields.get?_erase_of_ne members hkey.1, ← Fields.get?_erase_of_ne _ hkey.2, hown]
      rfl
    simp [memberNumber?, hparse, Json.get?, hshare] at hread

end Trail

end Audit

end CloudGate
