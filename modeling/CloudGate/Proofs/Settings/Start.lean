import CloudGate.Proofs.Settings.Sequence
import CloudGate.Proofs.Settings.Word
import CloudGate.Proofs.Text.Split

/-!
How a value begins, which decides what it is read as.

* `Start`, `start_cases`: the beginnings that there are.
* `readValue_word` and its likes: what is read at each of them.
* `IsMarked.not_isWord`: a text with a mark at its start is no word.
* `exists_word`, `IsWord.read`: words end before the next separator.
-/

namespace CloudGate.Settings.Variable

/-! ## Words and marks -/

/-- A text with gaps around it. -/
def IsAround (core w : List Char) : Prop :=
  ∃ front back, w = front ++ (core ++ back) ∧ IsGap front ∧ IsGap back

/-- The beginnings that no word has: those of truth values, of texts in quotes and of characters. -/
structure IsUnmarked (start : List Char) : Prop where
  yes : ¬ ['t', 'r', 'u', 'e'] <+: start
  no : ¬ ['f', 'a', 'l', 's', 'e'] <+: start
  quote : start.head? ≠ some '"'
  char : ∀ c rest, start ≠ '\'' :: c :: '\'' :: rest

/-- A word without quotes, with gaps before, after and in it. It may be empty. -/
structure IsWord (w : List Char) : Prop where
  separator : ∀ c ∈ w, isSeparator c = false
  start : IsUnmarked (skipBlanks w)

/-- A word of a single quote. Before a comma and another one it would be a character. -/
def IsLone (w : List Char) : Prop := skipBlanks w = ['\'']

/-- A text up to the next separator. -/
def wordOf (cs : List Char) : List Char := cs.takeWhile fun c => !isSeparator c

def afterWord (cs : List Char) : List Char := cs.dropWhile fun c => !isSeparator c

theorem wordOf_append_afterWord (cs : List Char) : wordOf cs ++ afterWord cs = cs :=
  List.takeWhile_append_dropWhile

theorem not_separator_of_mem_wordOf {cs : List Char} {c : Char} (h : c ∈ wordOf cs) :
    isSeparator c = false := by
  have hnot := List.mem_takeWhile_imp h
  rwa [Bool.not_eq_true'] at hnot

theorem separator_head?_afterWord {cs : List Char} {c : Char} (h : c ∈ (afterWord cs).head?) :
    isSeparator c = true := by
  have hhead := List.head?_dropWhile_not (fun c => !isSeparator c) cs
  have hc : (cs.dropWhile fun c => !isSeparator c).head? = some c := h
  simpa [hc] using hhead

theorem afterWord_append {word rest : List Char} (hword : ∀ c ∈ word, isSeparator c = false)
    (hrest : ∀ c ∈ rest.head?, isSeparator c = true) : afterWord (word ++ rest) = rest := by
  have hnot : ∀ c ∈ word, (!isSeparator c) = true := fun c hc => by rw [hword c hc]; rfl
  unfold afterWord
  rw [List.dropWhile_append_of_pos hnot]
  cases rest with
  | nil => rfl
  | cons c more => simp [hrest c rfl]

theorem not_separator_of_isBlank {c : Char} (h : isBlank c = true) : isSeparator c = false := by
  rcases isBlank_cases h with rfl | rfl | rfl
  · rfl
  · rfl
  · rfl

theorem isWord_gap_append {gap start : List Char} (hgap : IsGap gap) (h : IsUnmarked start)
    (hblank : ∀ c ∈ start.head?, isBlank c = false)
    (hseparator : ∀ c ∈ start, isSeparator c = false) : IsWord (gap ++ start) where
  separator c hc := by
    rcases List.mem_append.mp hc with hc | hc
    · exact not_separator_of_isBlank (hgap c hc)
    · exact hseparator c hc
  start := by
    rwa [skipBlanks_gap hgap, skipBlanks_of_head hblank]

theorem IsLone.isWord {w : List Char} (h : IsLone w) : IsWord w := by
  obtain ⟨gap, hw, hgap⟩ := exists_gap w
  rw [hw, h]
  exact isWord_gap_append hgap ⟨by decide, by decide, by decide, fun _ _ => nofun⟩
    (fun c hc => Option.some.inj hc ▸ rfl) (List.forall_mem_singleton.mpr rfl)

/-- A text that begins neither with a blank nor with what follows elements. -/
def Opens (core : List Char) : Prop :=
  ∃ c tail, core = c :: tail ∧ isBlank c = false ∧ isEnd c = false

theorem Opens.skipBlanks_eq {core front : List Char} (h : Opens core) (hfront : IsGap front)
    (rest : List Char) : skipBlanks (front ++ (core ++ rest)) = core ++ rest := by
  obtain ⟨c, tail, rfl, hc, -⟩ := h
  rw [skipBlanks_gap hfront]
  exact skipBlanks_of_head fun d hd => Option.some.inj hd ▸ hc

/-- The text of a value that is no word, by a mark at its start or by a bracket. -/
structure IsMarked (core : List Char) : Prop where
  opens : Opens core
  marked : ∀ back, ¬ IsUnmarked (core ++ back) ∨ ∃ c ∈ core, isSeparator c = true

theorem isMarked_true : IsMarked ['t', 'r', 'u', 'e'] :=
  ⟨⟨_, _, rfl, rfl, rfl⟩, fun back => .inl fun h => h.yes (List.prefix_append _ back)⟩

theorem isMarked_false : IsMarked ['f', 'a', 'l', 's', 'e'] :=
  ⟨⟨_, _, rfl, rfl, rfl⟩, fun back => .inl fun h => h.no (List.prefix_append _ back)⟩

theorem isMarked_quoted (q : List Char) : IsMarked ('"' :: q) :=
  ⟨⟨_, _, rfl, rfl, rfl⟩, fun _ => .inl fun h => h.quote rfl⟩

theorem isMarked_char (c : Char) : IsMarked ['\'', c, '\''] :=
  ⟨⟨_, _, rfl, rfl, rfl⟩, fun _ => .inl fun h => h.char _ _ rfl⟩

theorem isMarked_list (inner : List Char) : IsMarked ('[' :: inner) :=
  ⟨⟨_, _, rfl, rfl, rfl⟩, fun _ => .inr ⟨'[', List.mem_cons_self .., rfl⟩⟩

theorem isMarked_table (inner : List Char) : IsMarked ('\x7b' :: inner) :=
  ⟨⟨_, _, rfl, rfl, rfl⟩, fun _ => .inr ⟨'\x7b', List.mem_cons_self .., rfl⟩⟩

theorem IsMarked.not_isWord {core w : List Char} (h : IsMarked core) (hw : IsAround core w) :
    ¬ IsWord w := by
  intro hword
  obtain ⟨front, back, rfl, hfront, -⟩ := hw
  rcases h.marked back with hmarked | ⟨c, hc, hseparator⟩
  · exact hmarked (h.opens.skipBlanks_eq hfront back ▸ hword.start)
  · have hmem := List.mem_append_right front (List.mem_append_left back hc)
    rw [hword.separator c hmem] at hseparator
    contradiction

theorem IsUnmarked.of_append {start rest : List Char} (h : IsUnmarked (start ++ rest)) :
    IsUnmarked start where
  yes hyes := h.yes (hyes.trans (List.prefix_append _ _))
  no hno := h.no (hno.trans (List.prefix_append _ _))
  quote hquote := by
    obtain ⟨more, rfl⟩ := List.head?_eq_some_iff.mp hquote
    exact h.quote rfl
  char c more heq := h.char c (more ++ rest) (by rw [heq]; rfl)

theorem trimChars_gap_append {gap : List Char} (h : IsGap gap) (cs : List Char) :
    Text.trimChars (gap ++ cs) = Text.trimChars cs := by
  have hblanks : Text.Blanks gap := by
    intro c hc
    rcases isBlank_cases (h c hc) with rfl | rfl | rfl
    · rfl
    · rfl
    · rfl
  unfold Text.trimChars
  rw [Text.dropWhile_padded hblanks]

/-! ## Beginnings -/

theorem toList_true : "true".toList = ['t', 'r', 'u', 'e'] := by decide

theorem toList_false : "false".toList = ['f', 'a', 'l', 's', 'e'] := by decide

section

variable {cs rest : List Char} (depth : Nat)

theorem readValue_true (h : skipBlanks cs = ['t', 'r', 'u', 'e'] ++ rest) :
    readValue (depth + 1) cs = some (.scalar .environment (.bool true), skipBlanks rest) := by
  simp [readValue, h, toList_true, Text.afterPrefix?]

theorem readValue_false (h : skipBlanks cs = ['f', 'a', 'l', 's', 'e'] ++ rest) :
    readValue (depth + 1) cs = some (.scalar .environment (.bool false), skipBlanks rest) := by
  simp [readValue, h, toList_true, toList_false, Text.afterPrefix?]

theorem readValue_quoted (h : skipBlanks cs = '"' :: rest) :
    readValue (depth + 1) cs = (readText rest).map fun (s, rest) =>
      (.scalar .environment (.str s), skipBlanks rest) := by
  cases hread : readText rest with
  | none => simp [readValue, h, hread, toList_true, toList_false, Text.afterPrefix?]
  | some r => simp [readValue, h, hread, toList_true, toList_false, Text.afterPrefix?]

theorem readValue_char {c : Char} (h : skipBlanks cs = '\'' :: c :: '\'' :: rest) :
    readValue (depth + 1) cs =
      some (.scalar .environment (.str (String.singleton c)), skipBlanks rest) := by
  simp [readValue, h, toList_true, toList_false, Text.afterPrefix?]

theorem readValue_list (h : skipBlanks cs = '[' :: rest) :
    readValue (depth + 1) cs = (readSequence ']' (readValue depth) (rest.length + 1) rest).map
      fun (vs, rest) => (.list .environment vs, skipBlanks rest) := by
  cases hread : readSequence ']' (readValue depth) (rest.length + 1) rest with
  | none => simp [readValue, h, hread, toList_true, toList_false, Text.afterPrefix?]
  | some r => simp [readValue, h, hread, toList_true, toList_false, Text.afterPrefix?]

theorem readValue_table (h : skipBlanks cs = '\x7b' :: rest) :
    readValue (depth + 1) cs =
      (readSequence '\x7d' (readMember (readValue depth)) (rest.length + 1) rest).map
        fun (ms, rest) => (.table .environment (Fields.ofList ms), skipBlanks rest) := by
  cases hread : readSequence '\x7d' (readMember (readValue depth)) (rest.length + 1) rest with
  | none => simp [readValue, h, hread, toList_true, toList_false, Text.afterPrefix?]
  | some r => simp [readValue, h, hread, toList_true, toList_false, Text.afterPrefix?]

theorem drop_length_takeWhile (p : Char → Bool) (cs : List Char) :
    cs.drop (cs.takeWhile p).length = cs.dropWhile p := by
  have h : (cs.takeWhile p ++ cs.dropWhile p).drop (cs.takeWhile p).length = cs.dropWhile p :=
    List.drop_left ..
  rwa [List.takeWhile_append_dropWhile] at h

/-- What has none of the other beginnings is a word up to the next separator. -/
theorem readValue_word (h : IsUnmarked (skipBlanks cs))
    (hopen : ∀ c ∈ (skipBlanks cs).head?, c ≠ '\x7b' ∧ c ≠ '[') :
    readValue (depth + 1) cs =
      some (.scalar .environment (ofWord (Text.trimChars (wordOf (skipBlanks cs)))),
        skipBlanks (afterWord (skipBlanks cs))) := by
  rw [readValue, toList_true, toList_false]
  simp only
  generalize skipBlanks cs = start at *
  split
  · rename_i heq
    obtain rfl := Text.afterPrefix?_eq_some.mp heq
    exact absurd (List.prefix_append _ _) h.yes
  · rename_i heq
    obtain rfl := Text.afterPrefix?_eq_some.mp heq
    exact absurd (List.prefix_append _ _) h.no
  · exact absurd rfl (hopen _ rfl).1
  · exact absurd rfl (hopen _ rfl).2
  · exact absurd rfl h.quote
  · exact absurd rfl (h.char _ _)
  · rw [drop_length_takeWhile]
    rfl

end

/-- The ways in which a value may begin. -/
inductive Start : List Char → Prop
  | yes (rest : List Char) : Start (['t', 'r', 'u', 'e'] ++ rest)
  | no (rest : List Char) : Start (['f', 'a', 'l', 's', 'e'] ++ rest)
  | quoted (rest : List Char) : Start ('"' :: rest)
  | char (c : Char) (rest : List Char) : Start ('\'' :: c :: '\'' :: rest)
  | list (rest : List Char) : Start ('[' :: rest)
  | table (rest : List Char) : Start ('\x7b' :: rest)
  | word {start : List Char} (h : IsUnmarked start)
      (hopen : ∀ c ∈ start.head?, c ≠ '\x7b' ∧ c ≠ '[') : Start start

theorem start_cases (start : List Char) : Start start := by
  by_cases hyes : ['t', 'r', 'u', 'e'] <+: start
  · obtain ⟨rest, rfl⟩ := hyes
    exact .yes rest
  by_cases hno : ['f', 'a', 'l', 's', 'e'] <+: start
  · obtain ⟨rest, rfl⟩ := hno
    exact .no rest
  by_cases hchar : ∃ c rest, start = '\'' :: c :: '\'' :: rest
  · obtain ⟨c, rest, rfl⟩ := hchar
    exact .char c rest
  have hcons : ∀ c, start.head? = some c → ∃ rest, start = c :: rest := fun c =>
    List.head?_eq_some_iff.mp
  by_cases hquote : start.head? = some '"'
  · obtain ⟨rest, rfl⟩ := hcons _ hquote
    exact .quoted rest
  by_cases hlist : start.head? = some '['
  · obtain ⟨rest, rfl⟩ := hcons _ hlist
    exact .list rest
  by_cases htable : start.head? = some '\x7b'
  · obtain ⟨rest, rfl⟩ := hcons _ htable
    exact .table rest
  refine .word ⟨hyes, hno, hquote, fun c rest heq => hchar ⟨c, rest, heq⟩⟩ fun c hc => ⟨?_, ?_⟩
  · rintro rfl
    exact htable hc
  · rintro rfl
    exact hlist hc

/-! ## Reading words and marked texts -/

/-- What stands before the next separator is a word. A single quote alone is one only if it does not
begin a character. -/
theorem exists_word {front start : List Char} (hfront : IsGap front)
    (hblank : ∀ c ∈ start.head?, isBlank c = false) (h : IsUnmarked start) :
    IsWord (front ++ wordOf start) ∧ skipBlanks (afterWord start) = afterWord start ∧
      (IsLone (front ++ wordOf start) → (afterWord start).tail.head? ≠ some '\'') := by
  have hsplit := wordOf_append_afterWord start
  have hunmarked : IsUnmarked (wordOf start) := IsUnmarked.of_append (hsplit.symm ▸ h)
  have hhead : ∀ c ∈ (wordOf start).head?, isBlank c = false := by
    intro c hc
    obtain ⟨tail, htail⟩ := List.head?_eq_some_iff.mp hc
    rw [htail] at hsplit
    exact hblank c (hsplit ▸ rfl)
  refine ⟨isWord_gap_append hfront hunmarked hhead fun c => not_separator_of_mem_wordOf, ?_,
    fun hlone hquote => ?_⟩
  · refine skipBlanks_of_head fun c hc => ?_
    cases hgap : isBlank c with
    | false => rfl
    | true =>
      have hseparator := separator_head?_afterWord hc
      rw [not_separator_of_isBlank hgap] at hseparator
      contradiction
  · unfold IsLone at hlone
    rw [skipBlanks_gap hfront, skipBlanks_of_head hhead] at hlone
    -- the single quotes on either side of the separator make a character
    obtain ⟨c, more, hafter⟩ : ∃ c more, afterWord start = c :: '\'' :: more := by
      cases hafter : afterWord start with
      | nil =>
        rw [hafter] at hquote
        contradiction
      | cons c tail =>
        rw [hafter] at hquote
        obtain ⟨more, rfl⟩ := List.head?_eq_some_iff.mp hquote
        exact ⟨c, more, rfl⟩
    rw [hlone, hafter] at hsplit
    exact h.char c more hsplit.symm

theorem prefix_of_prefix_append {p start rest : List Char} (h : p <+: start ++ rest)
    (hrest : ∀ c ∈ rest.head?, c ∉ p) : p <+: start := by
  rcases Nat.le_total p.length start.length with hle | hle
  · exact List.prefix_of_prefix_length_le h (List.prefix_append start rest) hle
  · obtain ⟨more, rfl⟩ := List.prefix_of_prefix_length_le (List.prefix_append start rest) h hle
    cases more with
    | nil => exact ⟨[], by rw [List.append_nil, List.append_nil]⟩
    | cons c more =>
      obtain ⟨tail, rfl⟩ := (List.prefix_append_right_inj start).mp h
      exact absurd (List.mem_append_right start (List.mem_cons_self ..)) (hrest c rfl)

theorem IsUnmarked.append {start rest : List Char} (h : IsUnmarked start)
    (hrest : Follows (start = ['\'']) rest) : IsUnmarked (start ++ rest) := by
  have hends : ∀ c ∈ rest.head?, c = ',' ∨ c = '\x7d' ∨ c = ']' := fun c hc =>
    isEnd_cases (hrest.ends c hc)
  have hout : ∀ p : List Char, ',' ∉ p → '\x7d' ∉ p → ']' ∉ p → ∀ c ∈ rest.head?, c ∉ p := by
    intro p hcomma hbrace hbracket c hc
    rcases hends c hc with rfl | rfl | rfl
    · exact hcomma
    · exact hbrace
    · exact hbracket
  refine ⟨fun hyes => ?_, fun hno => ?_, fun hquote => ?_, fun c more heq => ?_⟩
  · exact h.yes (prefix_of_prefix_append hyes (hout _ (by decide) (by decide) (by decide)))
  · exact h.no (prefix_of_prefix_append hno (hout _ (by decide) (by decide) (by decide)))
  · cases start with
    | nil => exact absurd (hends _ hquote) (by decide)
    | cons c more => exact h.quote hquote
  · rcases start with _ | ⟨a, _ | ⟨b, _ | ⟨d, tail⟩⟩⟩
    · exact absurd (hends '\'' (Option.mem_def.mpr (congrArg List.head? heq))) (by decide)
    · obtain ⟨ha, rfl⟩ := List.cons.inj heq
      exact hrest.quote (by rw [ha]) rfl
    · obtain ⟨-, rfl⟩ := List.cons.inj (List.cons.inj heq).2
      exact absurd (hends '\'' rfl) (by decide)
    · obtain ⟨ha, heq⟩ := List.cons.inj heq
      obtain ⟨hd, -⟩ := List.cons.inj (List.cons.inj heq).2
      exact h.char b tail (by rw [ha, hd])

/-- No opening bracket and no blank stands where a word begins, nor where it ends if it is empty. -/
theorem head?_word_append {start rest : List Char} {lone : Prop} (hrest : Follows lone rest)
    (hblank : ∀ c ∈ start.head?, isBlank c = false)
    (hseparator : ∀ c ∈ start, isSeparator c = false) :
    ∀ c ∈ (start ++ rest).head?, isBlank c = false ∧ c ≠ '\x7b' ∧ c ≠ '[' := by
  intro c hc
  cases start with
  | nil =>
    have hend := hrest.ends c hc
    refine ⟨not_blank_of_isEnd hend, ?_, ?_⟩
    · rintro rfl
      exact absurd hend (by decide)
    · rintro rfl
      exact absurd hend (by decide)
  | cons d more =>
    obtain rfl := Option.some.inj hc
    have hd := hseparator d (List.mem_cons_self ..)
    refine ⟨hblank d rfl, ?_, ?_⟩
    · rintro rfl
      exact absurd hd (by decide)
    · rintro rfl
      exact absurd hd (by decide)

/-- A word is read up to what follows it. -/
theorem IsWord.read {w : List Char} (h : IsWord w) (depth : Nat) :
    Reads (readValue (depth + 1)) (IsLone w) w := by
  intro rest hrest
  obtain ⟨gap, hw, hgap⟩ := exists_gap w
  have hunmarked : IsUnmarked (skipBlanks w ++ rest) :=
    h.start.append ⟨hrest.ends, fun hlone => hrest.quote hlone⟩
  have hseparator : ∀ c ∈ skipBlanks w, isSeparator c = false := fun c hc =>
    h.separator c (by rw [hw]; exact List.mem_append_right _ hc)
  have hhead := head?_word_append hrest (fun c => not_blank_head?_skipBlanks) hseparator
  have hskip : skipBlanks (w ++ rest) = skipBlanks w ++ rest := by
    rw [hw, List.append_assoc, skipBlanks_gap hgap, ← hw]
    exact skipBlanks_of_head fun c hc => (hhead c hc).1
  have hafter : afterWord (skipBlanks w ++ rest) = rest :=
    afterWord_append hseparator fun c hc => isSeparator_of_isEnd (hrest.ends c hc)
  rw [← hskip] at hunmarked hhead
  rw [readValue_word depth hunmarked fun c hc => (hhead c hc).2, hskip, hafter, hrest.skipBlanks_eq]
  exact ⟨_, rfl⟩

/-- A text with a mark is read with the gaps around it if it is read at its start. -/
theorem IsMarked.read {core w : List Char} (h : IsMarked core) (hw : IsAround core w) {depth : Nat}
    (hstart : ∀ {cs rest : List Char}, skipBlanks cs = core ++ rest → rest.head? ≠ some '\'' →
      ∃ v, readValue (depth + 1) cs = some (v, skipBlanks rest)) (lone : Prop) :
    Reads (readValue (depth + 1)) lone w := by
  obtain ⟨front, back, rfl, hfront, hback⟩ := hw
  intro rest hrest
  have hquote : (back ++ rest).head? ≠ some '\'' := by
    intro hc
    cases back with
    | nil => exact absurd (hrest.ends _ hc) (by decide)
    | cons d more =>
      obtain rfl := Option.some.inj hc
      exact absurd (hback _ (List.mem_cons_self ..)) (by decide)
  obtain ⟨v, hv⟩ := hstart (h.opens.skipBlanks_eq hfront (back ++ rest)) hquote
  refine ⟨v, ?_⟩
  rw [List.append_assoc, List.append_assoc, hv, skipBlanks_gap hback, hrest.skipBlanks_eq]

end CloudGate.Settings.Variable
