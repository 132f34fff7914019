import CloudGate.Proofs.Settings.Start

/-!
The value of a variable, as the text that it is read from.

* `IsItem`: the grammar of values, with lists and tables inside one another.
* `exists_item`, `IsItem.read`: exactly the texts of the grammar are read as values.
* `valueOf_eq_self_iff`: the texts that are their own value.
-/

namespace CloudGate.Settings.Variable

/-- A value with the gaps around it. -/
inductive IsItem : List Char → Prop
  | word {w : List Char} (h : IsWord w) : IsItem w
  | yes {w : List Char} (h : IsAround ['t', 'r', 'u', 'e'] w) : IsItem w
  | no {w : List Char} (h : IsAround ['f', 'a', 'l', 's', 'e'] w) : IsItem w
  | quoted {q w : List Char} (hq : IsQuoted q) (h : IsAround ('"' :: q) w) : IsItem w
  | char {c : Char} {w : List Char} (h : IsAround ['\'', c, '\''] w) : IsItem w
  | list {items : List (List Char)} {inner w : List Char} (hinner : IsSequence ']' items inner)
      (hlone : items.IsChain fun a b => IsLone a → b.head? ≠ some '\'')
      (hitems : ∀ item ∈ items, IsItem item) (h : IsAround ('[' :: inner) w) : IsItem w
  | table {members : List (List Char × List Char)} {inner w : List Char}
      (hinner : IsSequence '\x7d' (members.map fun m => m.1 ++ '=' :: m.2) inner)
      (hkeys : ∀ m ∈ members, ∃ key, IsKey key ∧ IsAround key m.1)
      (hitems : ∀ m ∈ members, IsItem m.2) (h : IsAround ('\x7b' :: inner) w) : IsItem w

/-! ## What is read is in the grammar -/

/-- What a text of the grammar stands for. A word stands for itself or for a number. Any other text
stands for a truth value, a list or a table, or for a text shorter than itself. -/
def StandsFor (w : List Char) (v : Value) : Prop :=
  (IsWord w ∧ v = .scalar .environment (ofWord (Text.trimChars w))) ∨
    ¬ IsWord w ∧ ∀ source s, v = .scalar source (.str s) → s.toList.length < w.length

theorem exists_map {α β : Type} {f : α → β} {P : α → Prop} {bs : List β}
    (h : ∀ b ∈ bs, ∃ a, b = f a ∧ P a) : ∃ as : List α, bs = as.map f ∧ ∀ a ∈ as, P a := by
  induction bs with
  | nil => exact ⟨[], rfl, List.forall_mem_nil _⟩
  | cons b rest ih =>
    obtain ⟨⟨a, rfl, ha⟩, hrest⟩ := List.forall_mem_cons.mp h
    obtain ⟨as, rfl, has⟩ := ih hrest
    exact ⟨a :: as, rfl, List.forall_mem_cons.mpr ⟨ha, has⟩⟩

/-- A member is a key and a value on either side of an equals sign. -/
theorem exists_member {value : Reader Value} {P : List Char → Prop}
    (hsound : ∀ {cs : List Char} {v : Value} {rest : List Char}, value cs = some (v, rest) →
      ∃ item, cs = item ++ rest ∧ P item)
    {cs rest : List Char} {m : String × Value} (h : readMember value cs = some (m, rest)) :
    ∃ text, cs = text ++ rest ∧ (∃ parts : List Char × List Char,
      text = parts.1 ++ '=' :: parts.2 ∧
        (∃ key, IsKey key ∧ IsAround key parts.1) ∧ P parts.2) ∧
      (False → rest.tail.head? ≠ some '\'') := by
  obtain ⟨⟨name, left⟩, hname, h⟩ := Option.bind_eq_some_iff.mp h
  obtain ⟨key, hkey, hisKey⟩ := exists_key hname
  obtain ⟨front, hcs, hfront⟩ := exists_gap cs
  obtain ⟨back, hleft, hback⟩ := exists_gap left
  simp only at h
  split at h
  · rename_i more hequals
    obtain ⟨⟨v, end'⟩, hvalue, heq⟩ := Option.bind_eq_some_iff.mp h
    obtain ⟨-, rfl⟩ := Prod.mk.inj (Option.some.inj heq)
    obtain ⟨item, rfl, hitem⟩ := hsound hvalue
    refine ⟨front ++ (key ++ back) ++ '=' :: item, ?_, ⟨(_, item), rfl,
      ⟨key, hisKey, front, back, rfl, hfront, hback⟩, hitem⟩, False.elim⟩
    rw [hcs, hkey, hleft, hequals]
    simp
  · contradiction

/-- What is read as a value is a text of the grammar. -/
theorem exists_item {depth : Nat} {cs rest : List Char} {v : Value}
    (h : readValue depth cs = some (v, rest)) :
    ∃ w, cs = w ++ rest ∧ IsItem w ∧ StandsFor w v ∧
      (IsLone w → rest.tail.head? ≠ some '\'') := by
  induction depth generalizing cs v rest with
  | zero => contradiction
  | succ depth ih =>
    obtain ⟨front, hcs, hfront⟩ := exists_gap cs
    have hblank : ∀ c ∈ (skipBlanks cs).head?, isBlank c = false := fun c =>
      not_blank_head?_skipBlanks
    have hmarked : ∀ {core left : List Char} {u : Value}, skipBlanks cs = core ++ left →
        IsMarked core → (∀ {w}, IsAround core w → IsItem w) →
        (∀ source s, u = .scalar source (.str s) → s.toList.length < core.length) →
        ∃ w, cs = w ++ skipBlanks left ∧ IsItem w ∧ StandsFor w u ∧
          (IsLone w → (skipBlanks left).tail.head? ≠ some '\'') := by
      intro core left u hcore hmark hitem hshort
      obtain ⟨back, hleft, hback⟩ := exists_gap left
      have haround : IsAround core (front ++ (core ++ back)) := ⟨front, back, rfl, hfront, hback⟩
      have hnot := hmark.not_isWord haround
      refine ⟨_, ?_, hitem haround, .inr ⟨hnot, fun source s hs => ?_⟩, fun hlone =>
        absurd hlone.isWord hnot⟩
      · rw [List.append_assoc, List.append_assoc, ← hleft, ← hcore]
        exact hcs
      · have hlength := hshort source s hs
        simp only [List.length_append]
        omega
    obtain ⟨start, hstart⟩ : ∃ start, skipBlanks cs = start := ⟨_, rfl⟩
    cases start_cases start with
    | yes more =>
      rw [readValue_true depth hstart] at h
      obtain ⟨rfl, rfl⟩ := Prod.mk.inj (Option.some.inj h)
      exact hmarked hstart isMarked_true .yes fun _ _ => nofun
    | no more =>
      rw [readValue_false depth hstart] at h
      obtain ⟨rfl, rfl⟩ := Prod.mk.inj (Option.some.inj h)
      exact hmarked hstart isMarked_false .no fun _ _ => nofun
    | quoted more =>
      rw [readValue_quoted depth hstart] at h
      obtain ⟨⟨s, left⟩, htext, heq⟩ := Option.map_eq_some_iff.mp h
      obtain ⟨rfl, rfl⟩ := Prod.mk.inj heq
      obtain ⟨q, rfl, hq, hlength⟩ := exists_text htext
      refine hmarked hstart (isMarked_quoted q) (.quoted hq) fun source s' hs => ?_
      cases hs
      exact Nat.lt_succ_of_lt hlength
    | char c more =>
      rw [readValue_char depth hstart] at h
      obtain ⟨rfl, rfl⟩ := Prod.mk.inj (Option.some.inj h)
      refine hmarked hstart (isMarked_char c) .char fun source s hs => ?_
      cases hs
      rw [String.toList_singleton]
      exact Nat.lt_of_lt_of_le (Nat.lt_succ_self 1) (Nat.le_succ 2)
    | list more =>
      rw [readValue_list depth hstart] at h
      obtain ⟨⟨vs, left⟩, hsequence, heq⟩ := Option.map_eq_some_iff.mp h
      obtain ⟨rfl, rfl⟩ := Prod.mk.inj heq
      obtain ⟨items, inner, rfl, hinner, hitems, hlone⟩ :=
        exists_sequence (fun h => let ⟨w, hw, hitem, _, hlone⟩ := ih h; ⟨w, hw, hitem, hlone⟩)
          hsequence
      exact hmarked hstart (isMarked_list inner) (.list hinner hlone hitems) fun _ _ => nofun
    | table more =>
      rw [readValue_table depth hstart] at h
      obtain ⟨⟨ms, left⟩, hsequence, heq⟩ := Option.map_eq_some_iff.mp h
      obtain ⟨rfl, rfl⟩ := Prod.mk.inj heq
      obtain ⟨items, inner, rfl, hinner, hitems, -⟩ := exists_sequence
        (fun h => exists_member (fun h => let ⟨w, hw, hitem, _⟩ := ih h; ⟨w, hw, hitem⟩) h)
        hsequence
      obtain ⟨members, rfl, hmembers⟩ := exists_map hitems
      exact hmarked hstart (isMarked_table inner)
        (.table hinner (fun m hm => (hmembers m hm).1) fun m hm => (hmembers m hm).2)
        fun _ _ => nofun
    | word hunmarked hopen =>
      subst hstart
      rw [readValue_word depth hunmarked hopen] at h
      obtain ⟨rfl, rfl⟩ := Prod.mk.inj (Option.some.inj h)
      obtain ⟨hword, hskip, hlone⟩ := exists_word hfront hblank hunmarked
      rw [hskip]
      refine ⟨front ++ wordOf (skipBlanks cs), ?_, .word hword, .inl ⟨hword, ?_⟩, hlone⟩
      · rw [List.append_assoc, wordOf_append_afterWord]
        exact hcs
      · rw [trimChars_gap_append hfront]

/-! ## What is in the grammar is read -/

theorem isKeyChar_cases {c : Char} (h : isKeyChar c = true) :
    isBlank c = false ∧ isEnd c = false ∧ c ≠ '\'' := by
  have hne : ∀ {d : Char}, isKeyChar d = false → c ≠ d := by
    rintro d hd rfl
    rw [hd] at h
    contradiction
  refine ⟨?_, ?_, hne rfl⟩
  · simp [isBlank, hne (by decide : isKeyChar ' ' = false),
      hne (by decide : isKeyChar '\t' = false), hne (by decide : isKeyChar '\n' = false)]
  · simp [isEnd, hne (by decide : isKeyChar ',' = false),
      hne (by decide : isKeyChar '\x7d' = false), hne (by decide : isKeyChar ']' = false)]

theorem IsKey.opens {key : List Char} (h : IsKey key) :
    Opens key ∧ key.head? ≠ some '\'' := by
  cases h with
  | quoted h => exact ⟨⟨_, _, rfl, rfl, rfl⟩, nofun⟩
  | word hne hkey =>
    obtain ⟨c, tail, rfl⟩ := List.exists_cons_of_ne_nil hne
    obtain ⟨hblank, hend, hquote⟩ := isKeyChar_cases (hkey c (List.mem_cons_self ..))
    exact ⟨⟨c, tail, rfl, hblank, hend⟩, fun hc => hquote (Option.some.inj hc)⟩

theorem IsSequence.length_lt {close : Char} {items : List (List Char)} {w : List Char}
    (h : IsSequence close items w) : ∀ item ∈ items, item.length < w.length := by
  induction h with
  | done => exact List.forall_mem_nil _
  | last item =>
    refine List.forall_mem_singleton.mpr ?_
    rw [List.length_append]
    exact Nat.lt_succ_self _
  | next h ih =>
    refine List.forall_mem_cons.mpr ⟨?_, fun item hitem => ?_⟩
    · simp
    · have := ih item hitem
      simp only [List.length_append, List.length_cons]
      omega

theorem IsAround.head?_ne_quote {key before : List Char} (h : IsAround key before)
    (hkey : IsKey key) (rest : List Char) : (before ++ rest).head? ≠ some '\'' := by
  obtain ⟨front, back, rfl, hfront, -⟩ := h
  intro hc
  cases front with
  | nil =>
    obtain ⟨⟨c, tail, rfl, -⟩, hquote⟩ := hkey.opens
    exact hquote hc
  | cons d more =>
    obtain rfl := Option.some.inj hc
    exact absurd (hfront _ (List.mem_cons_self ..)) (by decide)

theorem IsAround.opens {core w : List Char} (h : IsAround core w) (hcore : Opens core)
    (rest : List Char) : ∀ c ∈ (skipBlanks (w ++ rest)).head?, isEnd c = false := by
  obtain ⟨front, back, rfl, hfront, -⟩ := h
  rw [List.append_assoc, List.append_assoc, hcore.skipBlanks_eq hfront]
  obtain ⟨c, tail, rfl, -, hend⟩ := hcore
  exact fun d hd => Option.some.inj hd ▸ hend

/-- A value does not begin with a comma or a closing bracket. -/
theorem IsItem.opens {w : List Char} (h : IsItem w) :
    ∀ c ∈ (skipBlanks w).head?, isEnd c = false := by
  have hmarked : ∀ {core : List Char}, IsMarked core → IsAround core w →
      ∀ c ∈ (skipBlanks w).head?, isEnd c = false := by
    intro core hcore hw
    have h := hw.opens hcore.opens []
    rwa [List.append_nil] at h
  cases h with
  | word h =>
    intro c hc
    obtain ⟨gap, hw, -⟩ := exists_gap w
    have hmem : c ∈ w := by
      rw [hw]
      exact List.mem_append_right _ (List.mem_of_mem_head? hc)
    cases hend : isEnd c with
    | false => rfl
    | true => exact absurd (isSeparator_of_isEnd hend) (Bool.eq_false_iff.mp (h.separator c hmem))
  | yes h => exact hmarked isMarked_true h
  | no h => exact hmarked isMarked_false h
  | quoted hq h => exact hmarked (isMarked_quoted _) h
  | char h => exact hmarked (isMarked_char _) h
  | list hinner hlone hitems h => exact hmarked (isMarked_list _) h
  | table hinner hkeys hitems h => exact hmarked (isMarked_table _) h

/-- A member is read if its value is. -/
theorem readMember_append {value : Reader Value} {key before item : List Char} (hkey : IsKey key)
    (hbefore : IsAround key before) (h : Reads value (IsLone item) item) :
    Reads (readMember value) True (before ++ '=' :: item) := by
  intro rest hrest
  obtain ⟨v, hv⟩ := h rest ⟨hrest.ends, fun _ => hrest.quote trivial⟩
  obtain ⟨front, back, rfl, hfront, hback⟩ := hbefore
  have hequals : skipBlanks (back ++ '=' :: (item ++ rest)) = '=' :: (item ++ rest) := by
    rw [skipBlanks_gap hback]
    exact skipBlanks_of_head fun c hc => Option.some.inj hc ▸ rfl
  have hend : ∀ c ∈ (back ++ '=' :: (item ++ rest)).head?, isKeyChar c = false := by
    intro c hc
    cases back with
    | nil => exact Option.some.inj hc ▸ rfl
    | cons d more =>
      obtain rfl := Option.some.inj hc
      cases hkey : isKeyChar d with
      | false => rfl
      | true =>
        have hblank := hback d (List.mem_cons_self ..)
        rw [(isKeyChar_cases hkey).1] at hblank
        contradiction
  obtain ⟨name, hname⟩ := readKey_append hkey hend
  refine ⟨(name, v), ?_⟩
  unfold readMember
  simp only [List.append_assoc, List.cons_append, hkey.opens.1.skipBlanks_eq hfront, hname,
    Option.bind_eq_bind, Option.bind_some, hequals, hv]

theorem IsAround.length_le {core w : List Char} (h : IsAround core w) : core.length ≤ w.length := by
  obtain ⟨front, back, rfl, -⟩ := h
  simp only [List.length_append]
  omega

theorem lt_length_append_succ (inner rest : List Char) :
    inner.length < (inner ++ rest).length + 1 := by
  rw [List.length_append]
  omega

/-- What is in the grammar is read as a value, if the reader may go deep enough. -/
theorem IsItem.read {w : List Char} (h : IsItem w) {depth : Nat} (hdepth : w.length ≤ depth) :
    Reads (readValue (depth + 1)) (IsLone w) w := by
  induction h generalizing depth with
  | word h => exact h.read depth
  | yes h => exact isMarked_true.read h (fun hcs _ => ⟨_, readValue_true depth hcs⟩) _
  | no h => exact isMarked_false.read h (fun hcs _ => ⟨_, readValue_false depth hcs⟩) _
  | quoted hq h =>
    refine (isMarked_quoted _).read h (fun {cs rest} hcs _ => ?_) _
    obtain ⟨s, hs⟩ := readText_append hq rest
    rw [List.cons_append] at hcs
    rw [readValue_quoted depth hcs, hs]
    exact ⟨_, rfl⟩
  | char h => exact (isMarked_char _).read h (fun hcs _ => ⟨_, readValue_char depth hcs⟩) _
  | list hinner hlone hitems h ih =>
    rename_i items inner w
    have hlength : inner.length < w.length := h.length_le
    obtain ⟨depth, rfl⟩ : ∃ d, depth = d + 1 := ⟨depth - 1, by omega⟩
    refine (isMarked_list _).read h (fun {cs rest} hcs hrest => ?_) _
    have hread : ∀ item ∈ items, (skipBlanks item).head? ≠ some ']' ∧
        Reads (readValue (depth + 1)) (IsLone item) item := by
      intro item hitem
      have hlt := hinner.length_lt item hitem
      refine ⟨fun hc => absurd ((hitems item hitem).opens _ hc) (by decide), ?_⟩
      exact ih item hitem (by omega)
    obtain ⟨vs, hvs⟩ :=
      hinner.read rfl (by decide) hlone hread (lt_length_append_succ inner rest) hrest
    rw [List.cons_append] at hcs
    rw [readValue_list _ hcs, hvs]
    exact ⟨_, rfl⟩
  | table hinner hkeys hitems h ih =>
    rename_i members inner w
    have hlength : inner.length < w.length := h.length_le
    obtain ⟨depth, rfl⟩ : ∃ d, depth = d + 1 := ⟨depth - 1, by omega⟩
    refine (isMarked_table _).read h (fun {cs rest} hcs hrest => ?_) _
    have hread : ∀ text ∈ members.map fun m => m.1 ++ '=' :: m.2,
        (skipBlanks text).head? ≠ some '\x7d' ∧
          Reads (readMember (readValue (depth + 1))) True text := by
      intro text htext
      have hlt := hinner.length_lt text htext
      obtain ⟨m, hm, rfl⟩ := List.mem_map.mp htext
      obtain ⟨key, hkey, hbefore⟩ := hkeys m hm
      refine ⟨fun hc => absurd (hbefore.opens hkey.opens.1 _ _ hc) (by decide), ?_⟩
      refine readMember_append hkey hbefore (ih m hm ?_)
      simp only [List.length_append, List.length_cons] at hlt
      omega
    -- no member begins with a single quote
    have hchain : (members.map fun m => m.1 ++ '=' :: m.2).IsChain
        fun _ b => True → b.head? ≠ some '\'' := by
      refine (List.pairwise_of_forall_mem_list fun _ _ text htext _ => ?_).isChain
      obtain ⟨m, hm, rfl⟩ := List.mem_map.mp htext
      obtain ⟨key, hkey, hbefore⟩ := hkeys m hm
      exact hbefore.head?_ne_quote hkey _
    obtain ⟨ms, hms⟩ :=
      hinner.read rfl (by decide) hchain hread (lt_length_append_succ inner rest) hrest
    rw [List.cons_append] at hcs
    rw [readValue_table _ hcs, hms]
    exact ⟨_, rfl⟩

/-! ## Values of variables -/

theorem IsItem.readValue_eq {w : List Char} (h : IsItem w) :
    ∃ v, readValue (w.length + 1) w = some (v, []) := by
  have hread := h.read (Nat.le_refl _) [] ⟨nofun, fun _ => nofun⟩
  rwa [List.append_nil] at hread

/-- A text of the grammar has a value, and any other text stands for itself. -/
theorem valueOf_cases (text : String) :
    (IsItem (Text.trimChars text.toList) ∧
      StandsFor (Text.trimChars text.toList) (valueOf text)) ∨
    (¬ IsItem (Text.trimChars text.toList) ∧
      valueOf text = .scalar .environment (.str (String.ofList (Text.trimChars text.toList)))) := by
  unfold valueOf
  simp only
  generalize Text.trimChars text.toList = cs
  split
  · rename_i v hread
    obtain ⟨w, rfl, hitem, hstands, -⟩ := exists_item hread
    rw [List.append_nil] at hread ⊢
    exact .inl ⟨hitem, hstands⟩
  · rename_i hread
    refine .inr ⟨fun hitem => ?_, rfl⟩
    obtain ⟨v, hv⟩ := hitem.readValue_eq
    exact hread v hv

theorem source_readValue {depth : Nat} {cs rest : List Char} {v : Value}
    (h : readValue depth cs = some (v, rest)) : v.source = .environment := by
  cases depth with
  | zero => contradiction
  | succ depth =>
    obtain ⟨start, hstart⟩ : ∃ start, skipBlanks cs = start := ⟨_, rfl⟩
    cases start_cases start with
    | yes more =>
      rw [readValue_true depth hstart] at h
      obtain ⟨rfl, -⟩ := Prod.mk.inj (Option.some.inj h)
      rfl
    | no more =>
      rw [readValue_false depth hstart] at h
      obtain ⟨rfl, -⟩ := Prod.mk.inj (Option.some.inj h)
      rfl
    | char c more =>
      rw [readValue_char depth hstart] at h
      obtain ⟨rfl, -⟩ := Prod.mk.inj (Option.some.inj h)
      rfl
    | word hunmarked hopen =>
      subst hstart
      rw [readValue_word depth hunmarked hopen] at h
      obtain ⟨rfl, -⟩ := Prod.mk.inj (Option.some.inj h)
      rfl
    | quoted more =>
      rw [readValue_quoted depth hstart] at h
      obtain ⟨_, -, heq⟩ := Option.map_eq_some_iff.mp h
      obtain ⟨rfl, -⟩ := Prod.mk.inj heq
      rfl
    | list more =>
      rw [readValue_list depth hstart] at h
      obtain ⟨_, -, heq⟩ := Option.map_eq_some_iff.mp h
      obtain ⟨rfl, -⟩ := Prod.mk.inj heq
      rfl
    | table more =>
      rw [readValue_table depth hstart] at h
      obtain ⟨_, -, heq⟩ := Option.map_eq_some_iff.mp h
      obtain ⟨rfl, -⟩ := Prod.mk.inj heq
      rfl

theorem source_valueOf (text : String) : (valueOf text).source = .environment := by
  unfold valueOf
  simp only
  split
  · rename_i v hread
    exact source_readValue hread
  · rfl

/-- A text that stands for itself: it has no blanks around it, and if it is in the grammar at all,
it is a word and no number. -/
def IsPlain (cs : List Char) : Prop :=
  Text.Bare cs ∧ (IsItem cs → IsWord cs ∧ ¬ IsNumber cs)

theorem length_trimChars_le (cs : List Char) : (Text.trimChars cs).length ≤ cs.length := by
  obtain ⟨front, back, hcs, -⟩ := Text.exists_padding cs
  have hlength := congrArg List.length hcs
  simp only [List.length_append] at hlength
  omega

/-- The value of a variable is its text exactly if the text is plain. -/
theorem valueOf_eq_self_iff {text : String} :
    valueOf text = .scalar .environment (.str text) ↔ IsPlain text.toList := by
  constructor
  · intro h
    have htext : ∀ {cs : List Char}, text = String.ofList cs → text.toList = cs := by
      rintro cs rfl
      exact String.toList_ofList
    rcases valueOf_cases text with ⟨hitem, hstands⟩ | ⟨hitem, hvalue⟩
    · rw [h] at hstands
      rcases hstands with ⟨hword, heq⟩ | ⟨-, hshort⟩
      · rw [Text.trimChars_bare (Text.bare_trimChars _)] at heq
        obtain ⟨-, hscalar⟩ := Value.scalar.inj heq
        obtain ⟨hnumber, hself⟩ := ofWord_eq_str_iff.mp hscalar.symm
        rw [← htext hself] at hword hnumber
        exact ⟨Text.trimChars_eq_iff.mp (htext hself).symm, fun _ => ⟨hword, hnumber⟩⟩
      · exact absurd (hshort _ _ rfl) (Nat.not_lt.mpr (length_trimChars_le _))
    · rw [h] at hvalue
      have hself := htext (Scalar.str.inj (Value.scalar.inj hvalue).2)
      rw [← hself] at hitem
      exact ⟨Text.trimChars_eq_iff.mp hself.symm, fun h => absurd h hitem⟩
  · rintro ⟨hbare, hplain⟩
    have hcases := valueOf_cases text
    rw [Text.trimChars_bare hbare, String.ofList_toList] at hcases
    rcases hcases with ⟨hitem, hstands⟩ | ⟨-, hvalue⟩
    · obtain ⟨hword, hnumber⟩ := hplain hitem
      rcases hstands with ⟨-, hvalue⟩ | ⟨hnot, -⟩
      · rw [hvalue, Text.trimChars_bare hbare,
          ofWord_eq_str_iff.mpr ⟨hnumber, String.ofList_toList.symm⟩]
      · exact absurd hword hnot
    · exact hvalue

example : valueOf "12345" = .scalar .environment (.int 12345 false) := by rfl

example : valueOf "[',',x]" = .list .environment [.scalar .environment (.str ","),
    .scalar .environment (.str "x")] := by rfl

end CloudGate.Settings.Variable
