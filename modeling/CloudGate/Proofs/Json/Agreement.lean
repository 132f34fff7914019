import CloudGate.Proofs.Json.ReadBack
import CloudGate.Proofs.Json.Skip

/-!
Reading a typed value from what was written for a JSON value, against decoding the JSON value.

* `begins`: the first character tells texts, lists and objects from one another.
* `passesItem_written`: what was written is passed over, however deep its containers stand in one
  another, by induction on the value.
* `Agree`: both give results that belong together, or both fail.
* `agree_readListOf`: a reader that agrees with a decoder does so on lists.
-/

namespace CloudGate.Json

/-! ## The first character -/

/-- A character that stands first in a value of this kind. -/
structure Begins (v : Json) (c : Char) : Prop where
  notBlank : Text.isBlank c = false
  quote : c = '"' → ∃ s, v = .str s
  bracket : c = '[' → ∃ items, v = .arr items
  brace : c = '\x7b' → ∃ members, v = .obj members

theorem Begins.notSpace {v : Json} {c : Char} (h : v.Begins c) : isSpace c = false := by
  cases hspace : isSpace c with
  | false => rfl
  | true =>
    have hblank := h.notBlank
    simp only [isSpace, Bool.or_eq_true, beq_iff_eq] at hspace
    rcases hspace with ((rfl | rfl) | rfl) | rfl <;> contradiction

/-- A letter, a digit or a sign starts none of these. -/
theorem Begins.other {v : Json} {c : Char} (hblank : Text.isBlank c = false)
    (hother : c ∉ ['"', '[', '\x7b']) : v.Begins c := by
  simp only [List.mem_cons, List.not_mem_nil, or_false, not_or] at hother
  obtain ⟨hquote, hbracket, hbrace⟩ := hother
  exact ⟨hblank, fun h => absurd h hquote, fun h => absurd h hbracket, fun h => absurd h hbrace⟩

theorem isBlank_of_numeral {c : Char} (h : Decimal.isNumeralChar c = true) :
    Text.isBlank c = false := by
  rw [Decimal.isNumeralChar, Bool.or_eq_true] at h
  rcases h with hdigit | hsign
  · exact isBlank_of_isDigit hdigit
  · have hmem := List.contains_iff_mem.mp hsign
    simp only [List.mem_cons, List.not_mem_nil, or_false] at hmem
    rcases hmem with rfl | rfl | rfl | rfl <;> rfl

theorem IsValid.begins {v : Json} (h : v.IsValid) :
    ∃ c more, v.render.toList = c :: more ∧ v.Begins c := by
  cases h with
  | null => exact ⟨'n', _, rfl, .other rfl (by decide)⟩
  | bool b =>
    cases b with
    | false => exact ⟨'f', _, rfl, .other rfl (by decide)⟩
    | true => exact ⟨'t', _, rfl, .other rfl (by decide)⟩
  | @num n hvalid =>
    obtain ⟨c, more, hcs⟩ := List.exists_cons_of_ne_nil (numeral_ne_nil_of_valid hvalid)
    have hc : Decimal.isNumeralChar c = true :=
      number_numeral n c (hcs ▸ List.mem_cons_self ..)
    refine ⟨c, more, hcs, .other (isBlank_of_numeral hc) fun hmem => ?_⟩
    simp only [List.mem_cons, List.not_mem_nil, or_false] at hmem
    rcases hmem with rfl | rfl | rfl <;> exact Bool.false_ne_true hc
  | str s =>
    exact ⟨'"', _, toList_renderString s, rfl, fun _ => ⟨s, rfl⟩, nofun, nofun⟩
  | @arr items _ =>
    exact ⟨'[', _, toList_render_arr items, rfl, nofun, fun _ => ⟨items, rfl⟩, nofun⟩
  | @obj members _ =>
    exact ⟨'\x7b', _, toList_render_obj members, rfl, nofun, nofun, fun _ => ⟨members, rfl⟩⟩

theorem IsValid.not_blank {v : Json} (h : v.IsValid) : Text.isBlankText v.render = false := by
  obtain ⟨c, more, hcs, hbegins⟩ := h.begins
  rw [Text.isBlankText, hcs, List.all_cons, hbegins.notBlank, Bool.false_and]

/-! ## Passing over -/

section Entries

variable {α : Type} {frame : Frame} {text : α → List Char} {items : List α} {close : Char}

/-- A text that starts an entry of the container. -/
def StartsEntry (frame : Frame) (cs : List Char) : Prop :=
  ∃ c more, cs = c :: more ∧ isSpace c = false ∧ frame.closes c = false

theorem StartsEntry.first {cs : List Char} (h : StartsEntry frame cs) (behind : List Char) :
    NextEntry frame true (cs ++ behind) (cs ++ behind) := by
  obtain ⟨c, more, rfl, hspace, hopen⟩ := h
  exact .first (skipSpace_of_not hspace _) hopen

theorem StartsEntry.next {cs : List Char} (h : StartsEntry frame cs) (behind : List Char) :
    NextEntry frame false (',' :: (cs ++ behind)) (cs ++ behind) := by
  obtain ⟨c, more, rfl, hspace, -⟩ := h
  have hskip : skipSpace (c :: more ++ behind) = c :: more ++ behind := skipSpace_of_not hspace _
  rw [← hskip]
  exact .next (by rw [hskip]; rfl)

theorem passesInside_close (hclose : frame.closes close = true) (afterElement : Bool)
    (behind : List Char) : PassesInside frame afterElement (close :: behind) behind := by
  refine .close (skipSpace_of_not ?_ behind) hclose
  cases frame with
  | _ =>
    obtain rfl := beq_iff_eq.mp hclose
    rfl

/-- The entries behind the first one. -/
theorem passesInside_more (hclose : frame.closes close = true)
    (hstop : continuesNumeral close = false)
    (hstart : ∀ a ∈ items, StartsEntry frame (text a))
    (hentry : ∀ a ∈ items, ∀ ⦃mid rest⦄, Stops mid → PassesInside frame true mid rest →
      PassesEntry frame (text a ++ mid) rest) (behind : List Char) :
    PassesInside frame true (items.flatMap (fun a => ',' :: text a) ++ close :: behind) behind := by
  induction items with
  | nil => exact passesInside_close hclose true behind
  | cons a rest ih =>
    obtain ⟨hfirst, hstarts⟩ := List.forall_mem_cons.mp hstart
    obtain ⟨hpass, hentries⟩ := List.forall_mem_cons.mp hentry
    rw [List.flatMap_cons, List.cons_append, List.cons_append, List.append_assoc]
    exact .entry (hfirst.next _)
      (hpass (stops_entries text rest close hstop behind) (ih hstarts hentries))

theorem passesInside_entries (hclose : frame.closes close = true)
    (hstop : continuesNumeral close = false)
    (hstart : ∀ a ∈ items, StartsEntry frame (text a))
    (hentry : ∀ a ∈ items, ∀ ⦃mid rest⦄, Stops mid → PassesInside frame true mid rest →
      PassesEntry frame (text a ++ mid) rest) (behind : List Char) :
    PassesInside frame false (entries text items ++ close :: behind) behind := by
  cases items with
  | nil => exact passesInside_close hclose false behind
  | cons a rest =>
    obtain ⟨hfirst, hstarts⟩ := List.forall_mem_cons.mp hstart
    obtain ⟨hpass, hentries⟩ := List.forall_mem_cons.mp hentry
    rw [entries, List.append_assoc]
    exact .entry (hfirst.first _) (hpass (stops_entries text rest close hstop behind)
      (passesInside_more hclose hstop hstarts hentries behind))

end Entries

theorem IsValid.startsEntry {v : Json} (h : v.IsValid) : StartsEntry .list v.render.toList := by
  have hopens := h.opens
  revert hopens
  cases v.render.toList with
  | nil => exact False.elim
  | cons c more => exact fun hopens => ⟨c, more, rfl, hopens.1, beq_false_of_ne hopens.2⟩

/-- There is no limit to the depth of what is passed over. -/
theorem passesItem_written {v : Json} (h : v.IsValid) :
    ∀ ⦃behind⦄, Stops behind → PassesItem (v.render.toList ++ behind) behind := by
  induction h with
  | null => exact fun _ hstops => passesItem_of_readValue (readValue_written (.null 0) hstops)
  | bool b => exact fun _ hstops => passesItem_of_readValue (readValue_written (.bool 0 b) hstops)
  | num hvalid =>
    exact fun _ hstops => passesItem_of_readValue (readValue_written (.num 0 hvalid) hstops)
  | str s => exact fun _ hstops => passesItem_of_readValue (readValue_written (.str 0 s) hstops)
  | arr hitems ih =>
    intro behind _
    rw [toList_render_arr, List.cons_append, List.append_assoc, List.singleton_append]
    refine .container .list rfl (fun _ _ => rfl) ?_
    refine passesInside_entries rfl (by decide) (fun v hv => (hitems v hv).startsEntry) ?_ behind
    intro v hv mid rest hstops hinside
    exact .value (Nat.le_refl _) (fun _ _ => rfl) (ih v hv hstops) hinside
  | obj hmembers ih =>
    intro behind _
    rw [toList_render_obj, List.cons_append, List.append_assoc, List.singleton_append]
    refine .container .object rfl (fun _ _ => rfl) ?_
    refine passesInside_entries rfl (by decide) (fun p _ => ?_) ?_ behind
    · exact ⟨'"', _, (List.append_nil _).symm.trans (memberText_eq p []), rfl, rfl⟩
    · intro p hp mid rest hstops hinside
      rw [memberText_eq]
      exact .member (readString_escaped p.1 _) rfl (ih p hp hstops) hinside

theorem skipValue_written {v : Json} (h : v.IsValid) {behind : List Char} (hstops : Stops behind) :
    skipValue (v.render.toList ++ behind) = .ok ((), behind) :=
  (passesItem_written h hstops).skipValue

/-! ## Agreement -/

/-- What is read from a text with more behind it, and what is decoded: results that belong together,
or two failures. -/
inductive Agree {α β : Type} (R : α → β → Prop) (behind : List Char) :
    Except Fault (α × List Char) → Except ShapeError β → Prop
  | ok {a : α} {b : β} (h : R a b) : Agree R behind (.ok (a, behind)) (.ok b)
  | error (fault : Fault) (e : ShapeError) : Agree R behind (.error fault) (.error e)

section Agree

variable {α β γ δ : Type} {R : α → β → Prop} {S : γ → δ → Prop} {mid behind : List Char}

theorem Agree.bind {read : Except Fault (α × List Char)} {decoded : Except ShapeError β}
    (h : Agree R mid read decoded) {f : α × List Char → Except Fault (γ × List Char)}
    {g : β → Except ShapeError δ}
    (hmore : ∀ {a b}, decoded = .ok b → R a b → Agree S behind (f (a, mid)) (g b)) :
    Agree S behind (read >>= f) (decoded >>= g) := by
  cases h with
  | ok hab => exact hmore rfl hab
  | error fault e => exact .error fault e

theorem Agree.of_ne_ok {read : Except Fault (α × List Char)} {decoded : Except ShapeError β}
    (hread : ∀ p, read ≠ .ok p) (hdecoded : ∀ b, decoded ≠ .ok b) :
    Agree R behind read decoded := by
  cases read with
  | ok p => exact absurd rfl (hread p)
  | error fault =>
    cases decoded with
    | ok b => exact absurd rfl (hdecoded b)
    | error e => exact .error fault e

theorem Agree.map {read : Except Fault (α × List Char)} {decoded : Except ShapeError β}
    (h : Agree R behind read decoded) {T : α → δ → Prop} {g : β → δ}
    (hmore : ∀ {a b}, R a b → T a (g b)) :
    Agree T behind read (decoded >>= fun b => .ok (g b)) := by
  cases h with
  | ok hab => exact .ok (hmore hab)
  | error fault e => exact .error fault e

/-- Whole texts have nothing behind. -/
theorem Agree.readAll {reader : Reader α} {cs : List Char} {decoded : Except ShapeError β}
    (h : Agree R [] (reader cs) decoded) :
    (∃ a b, Json.readAll reader cs = .ok a ∧ decoded = .ok b ∧ R a b) ∨
      ∃ fault e, Json.readAll reader cs = .error fault ∧ decoded = .error e := by
  unfold Json.readAll
  revert h
  generalize reader cs = read
  intro h
  cases h with
  | ok hab => exact Or.inl ⟨_, _, rfl, rfl, hab⟩
  | error fault e => exact Or.inr ⟨fault, e, rfl, rfl⟩

end Agree

/-! ## Texts and lists -/

theorem readText_str (s : String) (behind : List Char) :
    readText ((renderString s).toList ++ behind) = .ok (s, behind) := by
  rw [toList_renderString, List.cons_append, List.append_assoc, List.singleton_append]
  exact readString_escaped s behind

theorem readText_ne_ok {v : Json} (h : v.IsValid) (hother : ∀ s, v ≠ .str s) (behind : List Char)
    (p : String × List Char) : readText (v.render.toList ++ behind) ≠ .ok p := by
  obtain ⟨c, more, hcs, hbegins⟩ := h.begins
  rw [hcs, List.cons_append]
  unfold readText
  rw [skipSpace_of_not hbegins.notSpace]
  simp only
  split
  · contradiction
  · rename_i hquote
    obtain ⟨s, hs⟩ := hbegins.quote (List.cons.inj hquote).1
    exact absurd hs (hother s)
  · exact mismatchAt_ne_ok _ _ p

section List

variable {α : Type} {element : Reader α} {decode : Decoder α} {items : List Json}

/-- An element, and then the others. -/
theorem agree_cons {v : Json} {mid behind : List Char} {steps : Nat}
    (hv : Agree Eq mid (element (v.render.toList ++ mid)) (decode v))
    (hmore : Agree Eq behind (readElements element false steps mid) (items.mapM decode)) :
    Agree Eq behind
      (element (v.render.toList ++ mid) >>= fun p =>
        readElements element false steps p.2 >>= fun q => .ok (p.1 :: q.1, q.2))
      ((v :: items).mapM decode) := by
  rw [List.mapM_cons]
  refine hv.bind ?_
  rintro a _ - rfl
  refine hmore.bind ?_
  rintro more _ - rfl
  exact .ok rfl

/-- The elements behind the first one. -/
theorem agree_readMore
    (helement : ∀ v ∈ items, ∀ cs, Agree Eq cs (element (v.render.toList ++ cs)) (decode v))
    (hopens : ∀ v ∈ items, Opens v.render.toList) {steps : Nat} (hsteps : items.length < steps)
    (behind : List Char) :
    Agree Eq behind (readElements element false steps
      (items.flatMap (fun v => ',' :: v.render.toList) ++ ']' :: behind)) (items.mapM decode) := by
  induction items generalizing steps with
  | nil =>
    obtain ⟨steps, rfl⟩ := Nat.exists_eq_succ_of_ne_zero (Nat.ne_of_gt hsteps)
    exact .ok rfl
  | cons v rest ih =>
    obtain ⟨hv, helement⟩ := List.forall_mem_cons.mp helement
    obtain ⟨hopen, hopens⟩ := List.forall_mem_cons.mp hopens
    obtain ⟨steps, rfl⟩ := Nat.exists_eq_succ_of_ne_zero (Nat.ne_of_gt (Nat.zero_lt_of_lt hsteps))
    have hmore := ih helement hopens (Nat.lt_of_succ_lt_succ hsteps)
    rw [List.flatMap_cons, List.cons_append, List.cons_append, List.append_assoc,
      readElements_next steps (hopen.append _)]
    exact agree_cons (hv _) hmore

theorem agree_readElements
    (helement : ∀ v ∈ items, ∀ cs, Agree Eq cs (element (v.render.toList ++ cs)) (decode v))
    (hopens : ∀ v ∈ items, Opens v.render.toList) {steps : Nat} (hsteps : items.length < steps)
    (behind : List Char) :
    Agree Eq behind (readElements element true steps
      (entries (fun v => v.render.toList) items ++ ']' :: behind)) (items.mapM decode) := by
  obtain ⟨steps, rfl⟩ := Nat.exists_eq_succ_of_ne_zero (Nat.ne_of_gt (Nat.zero_lt_of_lt hsteps))
  cases items with
  | nil => exact .ok rfl
  | cons v rest =>
    obtain ⟨hv, helement⟩ := List.forall_mem_cons.mp helement
    obtain ⟨hopen, hopens⟩ := List.forall_mem_cons.mp hopens
    have hmore := agree_readMore helement hopens (Nat.lt_of_succ_lt_succ hsteps) behind
    rw [entries, List.append_assoc, readElements_first steps (hopen.append _)]
    exact agree_cons (hv _) hmore

/-- A value that is no list is no list for the reader either. -/
theorem agree_readListOf {v : Json} (h : v.IsValid)
    (helement : ∀ {v : Json}, v.IsValid → ∀ cs,
      Agree Eq cs (element (v.render.toList ++ cs)) (decode v)) (behind : List Char) :
    Agree Eq behind (readListOf element (v.render.toList ++ behind)) (Decoder.list decode v) := by
  by_cases hlist : ∃ items, v = .arr items
  · obtain ⟨items, rfl⟩ := hlist
    cases h with
    | arr hitems =>
      have hopens : ∀ v ∈ items, Opens v.render.toList := fun v hv => (hitems v hv).opens
      have hne : ∀ v ∈ items, v.render.toList ≠ [] := fun v hv => (hopens v hv).ne_nil
      rw [toList_render_arr, List.cons_append, List.append_assoc, List.singleton_append]
      exact agree_readElements (fun v hv => helement (hitems v hv)) hopens
        (length_lt_entries hne ']' behind) behind
  · refine .of_ne_ok (fun p => ?_) fun results => ?_
    · obtain ⟨c, more, hcs, hbegins⟩ := h.begins
      rw [hcs, List.cons_append]
      unfold readListOf
      rw [skipSpace_of_not hbegins.notSpace]
      simp only
      split
      · contradiction
      · rename_i hbracket
        exact absurd (hbegins.bracket (List.cons.inj hbracket).1) hlist
      · exact mismatchAt_ne_ok _ _ p
    · unfold Decoder.list
      split
      · exact absurd ⟨_, rfl⟩ hlist
      · exact fun h => nomatch h

end List

end CloudGate.Json
