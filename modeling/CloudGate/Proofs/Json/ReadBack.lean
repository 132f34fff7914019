import CloudGate.Proofs.Fields.Rearrangement
import CloudGate.Proofs.Json.Real

/-!
Reading what was written. The compact form of a value reads as this value with each number as its
numeral is read, unless its containers stand too deep in one another.

* `readString_escaped`: texts, whatever characters they hold.
* `readElements_entries`, `readMembers_entries`: containers, if their entries are read.
* `parse_number`: every number is read, integers as they are and other numbers as close ones.
* `readValue_written`: values with text behind them, by induction on what makes them legible.
* `parse_render`: whole texts.
-/

namespace CloudGate.Json

open Decimal (IsNumeral isNumeralChar)

/-! ## Texts -/

theorem le_byteCount {cs : List Char} : cs.length ≤ byteCount cs := by
  have hfrom : ∀ n, n + cs.length ≤ cs.foldl (fun n c => n + c.utf8Size) n := by
    induction cs with
    | nil => exact fun _ => Nat.le_refl _
    | cons c rest ih =>
      intro n
      have hsize : 1 ≤ c.utf8Size := c.utf8Size_pos
      have hrest := ih (n + c.utf8Size)
      rw [List.length_cons, List.foldl_cons]
      omega
  simpa [byteCount] using hfrom 0

theorem hexValue?_digitChar : ∀ n < 16, hexValue? (Nat.digitChar n) = some n := by decide

/-- The escape of a control character that has no short one. -/
theorem readEscape_hex {c : Char} (h : c.toNat < 0x20) (rest : List Char) :
    readEscape ('u' :: '0' :: '0' :: Nat.digitChar (c.toNat / 16) ::
      Nat.digitChar (c.toNat % 16) :: rest) = .ok (c, rest) := by
  have hhigh := hexValue?_digitChar (c.toNat / 16) (by omega)
  have hlow := hexValue?_digitChar (c.toNat % 16) (by omega)
  have hzero : hexValue? '0' = some 0 := rfl
  have hvalue : ((0 * 16 + 0) * 16 + c.toNat / 16) * 16 + c.toNat % 16 = c.toNat := by omega
  have hbytes : ¬ byteCount ('0' :: '0' :: Nat.digitChar (c.toNat / 16) ::
      Nat.digitChar (c.toNat % 16) :: rest) < 4 := by
    refine Nat.not_lt.mpr (Nat.le_trans ?_ le_byteCount)
    simp only [List.length_cons]
    omega
  have hhex : readHex ('0' :: '0' :: Nat.digitChar (c.toNat / 16) ::
      Nat.digitChar (c.toNat % 16) :: rest) = .ok (c.toNat, rest) := by
    simp only [readHex, if_neg hbytes, hzero, hhigh, hlow, hvalue]
  have hescape : readEscape ('u' :: '0' :: '0' :: Nat.digitChar (c.toNat / 16) ::
      Nat.digitChar (c.toNat % 16) :: rest) = readUnicodeEscape ('0' :: '0' ::
        Nat.digitChar (c.toNat / 16) :: Nat.digitChar (c.toNat % 16) :: rest) := rfl
  rw [hescape]
  unfold readUnicodeEscape
  rw [hhex]
  show (if _ then _ else _) = _
  rw [if_neg (by omega), if_pos (by omega), Char.ofNat_toNat]

/-- A character takes one step, whether it is escaped or not. -/
theorem readChars_escapeChar (steps : Nat) (read : List Char) (c : Char) (rest : List Char) :
    readChars (steps + 1) read (escapeChar c ++ rest) = readChars steps (c :: read) rest := by
  unfold escapeChar
  -- the characters with a short escape
  iterate 7
    split
    · rename_i hc
      subst hc
      rfl
  split
  · rename_i hcontrol
    have hescape := readEscape_hex hcontrol rest
    show (readEscape _ >>= fun p => readChars steps (p.1 :: read) p.2) = _
    exact congrArg (· >>= fun p => readChars steps (p.1 :: read) p.2) hescape
  · rename_i hquote hbackslash _ _ _ _ _ hcontrol
    rw [List.singleton_append, readChars, if_neg hcontrol]
    · exact hquote
    · exact hbackslash

theorem length_le_flatMap {α : Type} {f : α → List Char} {items : List α}
    (h : ∀ a ∈ items, f a ≠ []) : items.length ≤ (items.flatMap f).length := by
  induction items with
  | nil => exact Nat.le_refl _
  | cons a rest ih =>
    obtain ⟨ha, hrest⟩ := List.forall_mem_cons.mp h
    have hlength := List.length_pos_iff.mpr ha
    have hmore := ih hrest
    rw [List.flatMap_cons, List.length_append, List.length_cons]
    omega

theorem escapeChar_ne_nil (c : Char) : escapeChar c ≠ [] := by
  unfold escapeChar
  iterate 8
    split
    · exact List.cons_ne_nil _ _
  exact List.cons_ne_nil _ _

theorem readString_escaped (s : String) (rest : List Char) :
    readString (s.toList.flatMap escapeChar ++ '"' :: rest) = .ok (s, rest) := by
  have hchars : ∀ (cs read : List Char) (steps : Nat),
      readChars (steps + cs.length + 1) read (cs.flatMap escapeChar ++ '"' :: rest) =
        .ok (read.reverse ++ cs, rest) := by
    intro cs
    induction cs with
    | nil => exact fun read steps => by rw [List.append_nil]; rfl
    | cons c cs ih =>
      intro read steps
      have hstep := readChars_escapeChar (steps + cs.length + 1) read c
        (cs.flatMap escapeChar ++ '"' :: rest)
      rw [List.flatMap_cons, List.append_assoc, List.length_cons, ← Nat.add_assoc, hstep, ih,
        List.reverse_cons, List.append_assoc, List.singleton_append]
  have hlength : s.toList.length ≤ (s.toList.flatMap escapeChar ++ '"' :: rest).length := by
    rw [List.length_append]
    exact Nat.le_trans (length_le_flatMap fun c _ => escapeChar_ne_nil c) (Nat.le_add_right ..)
  obtain ⟨steps, hsteps⟩ := Nat.exists_eq_add_of_le' hlength
  unfold readString
  rw [hsteps, hchars, List.reverse_nil, List.nil_append]
  show Except.ok (String.ofList s.toList, rest) = _
  rw [String.ofList_toList]

/-! ## Containers -/

/-- A text that starts with neither a blank nor the end of a list. -/
def Opens : List Char → Prop
  | [] => False
  | c :: _ => isSpace c = false ∧ c ≠ ']'

theorem Opens.append {cs : List Char} (h : Opens cs) (behind : List Char) :
    Opens (cs ++ behind) := by
  cases cs with
  | nil => contradiction
  | cons c rest => exact h

theorem Opens.ne_nil {cs : List Char} (h : Opens cs) : cs ≠ [] := by
  rintro rfl
  exact h

theorem length_lt_entries {α : Type} {text : α → List Char} {items : List α}
    (h : ∀ a ∈ items, text a ≠ []) (c : Char) (behind : List Char) :
    items.length < (entries text items ++ c :: behind).length + 1 := by
  cases items with
  | nil => exact Nat.succ_pos _
  | cons a rest =>
    have hrest : rest.length ≤ (rest.flatMap fun a => ',' :: text a).length :=
      length_le_flatMap fun _ _ => List.cons_ne_nil _ _
    simp only [entries, List.length_append, List.length_cons]
    omega

/-- The next entry or the end of a container stops a numeral. -/
theorem stops_entries {α : Type} (text : α → List Char) (items : List α) (close : Char)
    (hclose : continuesNumeral close = false) (behind : List Char) :
    Stops (items.flatMap (fun a => ',' :: text a) ++ close :: behind) := by
  cases items with
  | nil => exact hclose
  | cons a rest =>
    have hcomma : continuesNumeral ',' = false := rfl
    exact hcomma

section List

variable {α β : Type} {element : Reader β} {text : α → List Char} {read : α → β} {items : List α}

theorem readElements_first (steps : Nat) {cs : List Char} (h : Opens cs) :
    readElements element true (steps + 1) cs = (element cs >>= fun p =>
      readElements element false steps p.2 >>= fun q => .ok (p.1 :: q.1, q.2)) := by
  cases cs with
  | nil => contradiction
  | cons c rest =>
    rw [readElements, skipSpace_of_not h.1]
    split
    · contradiction
    · rename_i heq
      exact absurd (List.cons.inj heq).1 h.2
    · rfl

theorem readElements_next (steps : Nat) {cs : List Char} (h : Opens cs) :
    readElements element false (steps + 1) (',' :: cs) = (element cs >>= fun p =>
      readElements element false steps p.2 >>= fun q => .ok (p.1 :: q.1, q.2)) := by
  cases cs with
  | nil => contradiction
  | cons c rest =>
    have hcomma : skipSpace (',' :: c :: rest) = ',' :: c :: rest := rfl
    rw [readElements, hcomma]
    split
    · contradiction
    · rename_i heq
      exact absurd (List.cons.inj heq).1 (by decide)
    · rename_i heq
      obtain ⟨rfl, rfl⟩ := List.cons.inj heq
      simp only [Bool.false_eq_true, ↓reduceIte, skipSpace_of_not h.1]
      split
      · contradiction
      · rename_i heq
        exact absurd (List.cons.inj heq).1 h.2
      · rfl

/-- The elements behind the first one. -/
theorem readElements_more
    (hread : ∀ a ∈ items, ∀ ⦃cs⦄, Stops cs → element (text a ++ cs) = .ok (read a, cs))
    (hopens : ∀ a ∈ items, Opens (text a)) {steps : Nat} (hsteps : items.length < steps)
    (behind : List Char) :
    readElements element false steps (items.flatMap (fun a => ',' :: text a) ++ ']' :: behind) =
      .ok (items.map read, behind) := by
  induction items generalizing steps with
  | nil =>
    obtain ⟨steps, rfl⟩ := Nat.exists_eq_succ_of_ne_zero (Nat.ne_of_gt hsteps)
    rfl
  | cons a rest ih =>
    obtain ⟨ha, hrest⟩ := List.forall_mem_cons.mp hread
    obtain ⟨hopen, hopens⟩ := List.forall_mem_cons.mp hopens
    obtain ⟨steps, rfl⟩ := Nat.exists_eq_succ_of_ne_zero (Nat.ne_of_gt (Nat.zero_lt_of_lt hsteps))
    have hmore := ih hrest hopens (Nat.lt_of_succ_lt_succ hsteps)
    have hentry := ha (stops_entries text rest ']' (by decide) behind)
    rw [List.flatMap_cons, List.cons_append, List.cons_append, List.append_assoc,
      readElements_next steps (hopen.append _), hentry]
    show (readElements element false steps _ >>= _) = _
    rw [hmore]
    rfl

theorem readElements_entries
    (hread : ∀ a ∈ items, ∀ ⦃cs⦄, Stops cs → element (text a ++ cs) = .ok (read a, cs))
    (hopens : ∀ a ∈ items, Opens (text a)) {steps : Nat} (hsteps : items.length < steps)
    (behind : List Char) :
    readElements element true steps (entries text items ++ ']' :: behind) =
      .ok (items.map read, behind) := by
  obtain ⟨steps, rfl⟩ := Nat.exists_eq_succ_of_ne_zero (Nat.ne_of_gt (Nat.zero_lt_of_lt hsteps))
  cases items with
  | nil => rfl
  | cons a rest =>
    obtain ⟨ha, hrest⟩ := List.forall_mem_cons.mp hread
    obtain ⟨hopen, hopens⟩ := List.forall_mem_cons.mp hopens
    have hmore := readElements_more hrest hopens (Nat.lt_of_succ_lt_succ hsteps) behind
    have hentry := ha (stops_entries text rest ']' (by decide) behind)
    rw [entries, List.append_assoc, readElements_first steps (hopen.append _), hentry]
    show (readElements element false steps _ >>= _) = _
    rw [hmore]
    rfl

end List

section Object

variable {value : String → Reader Json} {read : Json → Json} {members : Fields Json}

/-- A member behind its opening quote, and then the others. -/
def readMember (value : String → Reader Json) (steps : Nat) (cs : List Char) :
    Except Fault (List (String × Json) × List Char) :=
  readString cs >>= fun k => value k.1 k.2 >>= fun v =>
    readMembers value false steps v.2 >>= fun q => .ok ((k.1, v.1) :: q.1, q.2)

theorem readMembers_first (steps : Nat) (cs : List Char) :
    readMembers value true (steps + 1) ('"' :: cs) = readMember value steps cs := rfl

theorem readMembers_next (steps : Nat) (cs : List Char) :
    readMembers value false (steps + 1) (',' :: '"' :: cs) = readMember value steps cs := rfl

theorem memberText_eq (p : String × Json) (behind : List Char) :
    memberText p ++ behind =
      '"' :: (p.1.toList.flatMap escapeChar ++ '"' :: ':' :: (p.2.render.toList ++ behind)) := by
  simp [memberText, renderString]

theorem readMember_written {p : String × Json} {v : Json} {behind left : List Char}
    {more : List (String × Json)} {steps : Nat}
    (hvalue : value p.1 (':' :: (p.2.render.toList ++ behind)) = .ok (v, behind))
    (hmore : readMembers value false steps behind = .ok (more, left)) :
    readMember value steps (p.1.toList.flatMap escapeChar ++
      '"' :: ':' :: (p.2.render.toList ++ behind)) = .ok ((p.1, v) :: more, left) := by
  unfold readMember
  rw [readString_escaped]
  show (value p.1 _ >>= _) = _
  rw [hvalue]
  show (readMembers value false steps _ >>= _) = _
  rw [hmore]
  rfl

/-- The members behind the first one. -/
theorem readMembers_more
    (hread : ∀ p ∈ members, ∀ ⦃cs⦄, Stops cs →
      value p.1 (':' :: (p.2.render.toList ++ cs)) = .ok (read p.2, cs))
    {steps : Nat} (hsteps : members.length < steps) (behind : List Char) :
    readMembers value false steps
      (members.flatMap (fun p => ',' :: memberText p) ++ '\x7d' :: behind) =
        .ok (members.mapValues fun _ => read, behind) := by
  induction members generalizing steps with
  | nil =>
    obtain ⟨steps, rfl⟩ := Nat.exists_eq_succ_of_ne_zero (Nat.ne_of_gt hsteps)
    rfl
  | cons p rest ih =>
    obtain ⟨hp, hrest⟩ := List.forall_mem_cons.mp hread
    obtain ⟨steps, rfl⟩ := Nat.exists_eq_succ_of_ne_zero (Nat.ne_of_gt (Nat.zero_lt_of_lt hsteps))
    rw [List.flatMap_cons, List.cons_append, List.cons_append, List.append_assoc, memberText_eq,
      readMembers_next]
    exact readMember_written (hp (stops_entries memberText rest '\x7d' (by decide) behind))
      (ih hrest (Nat.lt_of_succ_lt_succ hsteps))

theorem readMembers_entries (value : String → Reader Json)
    (hread : ∀ p ∈ members, ∀ ⦃cs⦄, Stops cs →
      value p.1 (':' :: (p.2.render.toList ++ cs)) = .ok (read p.2, cs))
    {steps : Nat} (hsteps : members.length < steps) (behind : List Char) :
    readMembers value true steps (entries memberText members ++ '\x7d' :: behind) =
      .ok (members.mapValues fun _ => read, behind) := by
  obtain ⟨steps, rfl⟩ := Nat.exists_eq_succ_of_ne_zero (Nat.ne_of_gt (Nat.zero_lt_of_lt hsteps))
  cases members with
  | nil => rfl
  | cons p rest =>
    obtain ⟨hp, hrest⟩ := List.forall_mem_cons.mp hread
    rw [entries, List.append_assoc, memberText_eq, readMembers_first]
    exact readMember_written (hp (stops_entries memberText rest '\x7d' (by decide) behind))
      (readMembers_more hrest (Nat.lt_of_succ_lt_succ hsteps) behind)

end Object

/-! ## Values -/

/-- The number that the numeral of a number is read as. -/
def Number.reread (n : Number) : Number :=
  match parse n.render with
  | .ok (.num m) => m
  | _ => n

mutual

/-- A value with each number as its numeral is read. -/
def reread : Json → Json
  | .null => .null
  | .bool b => .bool b
  | .num n => .num n.reread
  | .str s => .str s
  | .arr items => .arr (rereadItems items)
  | .obj members => .obj (rereadMembers members)

def rereadItems : List Json → List Json
  | [] => []
  | v :: rest => v.reread :: rereadItems rest

def rereadMembers : Fields Json → Fields Json
  | [] => []
  | (name, v) :: rest => (name, v.reread) :: rereadMembers rest

end

theorem reread_arr (items : List Json) : (Json.arr items).reread = .arr (items.map reread) := by
  have hitems : ∀ items, rereadItems items = items.map reread := by
    intro items
    induction items with
    | nil => rfl
    | cons v rest ih => rw [rereadItems, ih, List.map_cons]
  rw [reread, hitems]

theorem reread_obj (members : Fields Json) :
    (Json.obj members).reread = .obj (members.mapValues fun _ => reread) := by
  have hmembers : ∀ members : Fields Json, rereadMembers members =
      members.mapValues fun _ => reread := by
    intro members
    induction members with
    | nil => rfl
    | cons p rest ih =>
      rw [rereadMembers, ih]
      rfl
  rw [reread, hmembers]

theorem Number.reread_eq {n m : Number} (h : parse n.render = .ok (.num m)) : n.reread = m := by
  rw [reread, h]

theorem parse_of_readValue {s : String} {v : Json}
    (h : readValue maxDepth (s.toList ++ []) = .ok (v, [])) : parse s = .ok v := by
  rw [List.append_nil] at h
  unfold parse readAll
  rw [h]
  rfl

/-- A number that is written: an integer of 64 bits or a binary64 number. -/
def Number.IsValid : Number → Prop
  | .int n => (Number.int n).Fits
  | .real x => x.IsValid

/-- Integers are read as they are, and other numbers as close ones. -/
inductive Number.Close : Number → Number → Prop
  | int (n : Int) : Close (.int n) (.int n)
  | real {x y : Decimal.Binary64} (hclose : Decimal.Close x y) : Close (.real x) (.real y)

theorem parse_int {n : Int} (h : (Number.int n).Fits) :
    parse (Number.int n).render = .ok (.num (.int n)) := by
  have hread : readValue maxDepth ((toString n).toList ++ []) = .ok (.num (.int n), []) :=
    readValue_int h maxDepth trivial
  exact parse_of_readValue hread

theorem parse_number {n : Number} (h : n.IsValid) :
    parse n.render = .ok (.num n.reread) ∧ n.Close n.reread := by
  obtain ⟨m, hm, hclose⟩ : ∃ m, parse n.render = .ok (.num m) ∧ n.Close m := by
    cases n with
    | int n => exact ⟨_, parse_int h, .int n⟩
    | real x =>
      obtain ⟨y, hy, hclose⟩ := parse_real h
      exact ⟨_, hy, .real hclose⟩
  rw [Number.reread_eq hm]
  exact ⟨hm, hclose⟩

/-- A value whose numbers are all valid, however deep they stand in it. -/
inductive IsValid : Json → Prop
  | null : IsValid .null
  | bool (b : Bool) : IsValid (.bool b)
  | num {n : Number} (hvalid : n.IsValid) : IsValid (.num n)
  | str (s : String) : IsValid (.str s)
  | arr {items : List Json} (hitems : ∀ v ∈ items, IsValid v) : IsValid (.arr items)
  | obj {members : Fields Json} (hmembers : ∀ p ∈ members, IsValid p.2) : IsValid (.obj members)

/-- A value that is written and read: its containers stand at most `depth` deep in one another, its
objects list their members in order, and its numbers are valid. -/
inductive Legible : Nat → Json → Prop
  | null (depth : Nat) : Legible depth .null
  | bool (depth : Nat) (b : Bool) : Legible depth (.bool b)
  | num (depth : Nat) {n : Number} (hvalid : n.IsValid) : Legible depth (.num n)
  | str (depth : Nat) (s : String) : Legible depth (.str s)
  | arr {depth : Nat} {items : List Json} (hitems : ∀ v ∈ items, Legible depth v) :
    Legible (depth + 1) (.arr items)
  | obj {depth : Nat} {members : Fields Json} (hsorted : Fields.Sorted members)
    (hmembers : ∀ p ∈ members, Legible depth p.2) : Legible (depth + 1) (.obj members)

theorem Legible.isValid {depth : Nat} {v : Json} (h : Legible depth v) : v.IsValid := by
  induction h with
  | null => exact .null
  | bool _ b => exact .bool b
  | num _ hvalid => exact .num hvalid
  | str _ s => exact .str s
  | arr _ ih => exact .arr ih
  | obj _ _ ih => exact .obj ih

theorem numeral_opens {cs : List Char} (h : IsNumeral cs) (hne : cs ≠ []) : Opens cs := by
  cases cs with
  | nil => contradiction
  | cons c rest =>
    have hc := h c (List.mem_cons_self ..)
    refine ⟨isSpace_of_numeral hc, ?_⟩
    rintro rfl
    contradiction

theorem numeral_ne_nil_of_valid {n : Number} (h : n.IsValid) : n.render.toList ≠ [] := by
  intro hnil
  obtain ⟨rest, hread⟩ := readAll_eq_ok (parse_number h).1
  rw [hnil] at hread
  exact readValue_nil maxDepth hread

theorem toList_renderString (s : String) :
    (renderString s).toList = '"' :: (s.toList.flatMap escapeChar ++ ['"']) := by
  rw [renderString, String.toList_ofList, List.cons_append]

/-- What is written for a value starts neither with a blank nor with the end of a list. -/
theorem IsValid.opens {v : Json} (h : v.IsValid) : Opens v.render.toList := by
  cases h with
  | null => exact ⟨rfl, by decide⟩
  | bool b => cases b <;> exact ⟨rfl, by decide⟩
  | num hvalid => exact numeral_opens (number_numeral _) (numeral_ne_nil_of_valid hvalid)
  | str s =>
    rw [render, toList_renderString]
    exact ⟨rfl, by decide⟩
  | arr hitems =>
    rw [toList_render_arr]
    exact ⟨rfl, by decide⟩
  | obj hmembers =>
    rw [toList_render_obj]
    exact ⟨rfl, by decide⟩

theorem Legible.opens {depth : Nat} {v : Json} (h : Legible depth v) : Opens v.render.toList :=
  h.isValid.opens

theorem readValue_str (depth : Nat) (s : String) (behind : List Char) :
    readValue depth ((renderString s).toList ++ behind) = .ok (.str s, behind) := by
  rw [toList_renderString, List.cons_append, List.append_assoc, List.singleton_append]
  unfold readValue
  show (readString _ >>= _) = _
  rw [readString_escaped]
  rfl

theorem readValue_arr {depth : Nat} {items : List Json}
    (hread : ∀ v ∈ items, ∀ ⦃cs⦄, Stops cs →
      readValue depth (v.render.toList ++ cs) = .ok (v.reread, cs))
    (hopens : ∀ v ∈ items, Opens v.render.toList) (behind : List Char) :
    readValue (depth + 1) ((Json.arr items).render.toList ++ behind) =
      .ok ((Json.arr items).reread, behind) := by
  have hne : ∀ v ∈ items, v.render.toList ≠ [] := fun v hv => (hopens v hv).ne_nil
  have hentries := readElements_entries hread hopens (length_lt_entries hne ']' behind) behind
  rw [toList_render_arr, List.cons_append, List.append_assoc, List.singleton_append, reread_arr]
  unfold readValue
  show (readElements _ _ _ _ >>= _) = _
  rw [hentries]
  rfl

theorem readValue_obj {depth : Nat} {members : Fields Json} (hsorted : Fields.Sorted members)
    (hread : ∀ p ∈ members, ∀ ⦃cs⦄, Stops cs →
      readValue depth (p.2.render.toList ++ cs) = .ok (p.2.reread, cs)) (behind : List Char) :
    readValue (depth + 1) ((Json.obj members).render.toList ++ behind) =
      .ok ((Json.obj members).reread, behind) := by
  have hne : ∀ p ∈ members, memberText p ≠ [] := by
    intro p _
    simp [memberText]
  have hentries := readMembers_entries
    (fun _ cs => readColon cs >>= fun rest => readValue depth rest) hread
    (length_lt_entries hne '\x7d' behind) behind
  rw [toList_render_obj, List.cons_append, List.append_assoc, List.singleton_append, reread_obj]
  unfold readValue
  show (readMembers _ _ _ _ >>= _) = _
  rw [hentries]
  show Except.ok (object (members.mapValues fun _ => reread), behind) = _
  rw [object, Fields.ofList_of_sorted (hsorted.mapValues _)]

/-- Every constructor of legibility is read by the branch of its first character. -/
theorem readValue_written {depth : Nat} {v : Json} (h : Legible depth v) :
    ∀ ⦃behind⦄, Stops behind →
      readValue depth (v.render.toList ++ behind) = .ok (v.reread, behind) := by
  induction h with
  | null depth =>
    intro behind _
    unfold readValue
    rfl
  | bool depth b =>
    intro behind _
    cases b <;> (unfold readValue; rfl)
  | num depth hvalid =>
    exact fun behind hstops => readValue_number (parse_number hvalid).1 depth hstops
  | str depth s => exact fun behind _ => readValue_str depth s behind
  | arr hitems ih => exact fun behind _ => readValue_arr ih (fun v hv => (hitems v hv).opens) behind
  | obj hsorted hmembers ih => exact fun behind _ => readValue_obj hsorted ih behind

/-- More lists in one another than the reader goes into. -/
theorem readValue_tooDeep {depth : Nat} {cs : List Char}
    (h : List.replicate (depth + 1) '[' <+: cs) : ∃ fault, readValue depth cs = .error fault := by
  obtain ⟨cs, rfl⟩ := h
  induction depth with
  | zero =>
    unfold readValue
    exact ⟨_, rfl⟩
  | succ inner ih =>
    obtain ⟨fault, hinner⟩ := ih
    have hopens : Opens (List.replicate (inner + 1) '[' ++ cs) := ⟨rfl, by decide⟩
    refine ⟨fault, ?_⟩
    rw [List.replicate_succ, List.cons_append]
    unfold readValue
    show (readElements (readValue inner) true _ _ >>= _) = _
    rw [readElements_first _ hopens, hinner]
    rfl

/-- An object is not read if its first member is not. -/
theorem readValue_obj_error {depth : Nat} {p : String × Json} {more : List (String × Json)}
    (h : ∀ cs, ∃ fault, readValue depth (p.2.render.toList ++ cs) = .error fault)
    (behind : List Char) : ∃ fault,
      readValue (depth + 1) ((Json.obj (p :: more)).render.toList ++ behind) = .error fault := by
  rw [toList_render_obj, List.cons_append, List.append_assoc, List.singleton_append, entries,
    List.append_assoc, memberText_eq]
  obtain ⟨fault, hfault⟩ := h (more.flatMap (fun q => ',' :: memberText q) ++ '\x7d' :: behind)
  refine ⟨fault, ?_⟩
  unfold readValue
  show (readMembers _ true _ _ >>= _) = _
  rw [readMembers_first]
  unfold readMember
  rw [readString_escaped]
  show ((readValue depth _ >>= _) >>= _) = _
  rw [hfault]
  rfl

theorem parse_error {v : Json}
    (h : ∃ fault, readValue maxDepth (v.render.toList ++ []) = .error fault) :
    ∃ fault, parse v.render = .error fault := by
  obtain ⟨fault, hfault⟩ := h
  rw [List.append_nil] at hfault
  refine ⟨fault, ?_⟩
  unfold parse readAll
  rw [hfault]
  rfl

theorem parse_render {v : Json} (h : Legible maxDepth v) : parse v.render = .ok v.reread :=
  parse_of_readValue (readValue_written h trivial)

end CloudGate.Json
