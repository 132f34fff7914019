import CloudGate.Settings.Variable
import Mathlib.Data.List.TakeWhile

/-!
The smallest parts of lists and tables in the value of a variable: gaps, texts in quotes and keys.

* `readQuoted_append`, `exists_quoted`: a text in quotes is read up to its closing quote, whatever
  follows, and nothing else is read.
* `readKey_append`, `exists_key`: likewise for the keys of tables.
-/

namespace CloudGate.Settings.Variable

/-! ## Gaps -/

/-- Blanks only. -/
def IsGap (cs : List Char) : Prop := ∀ c ∈ cs, isBlank c = true

theorem isBlank_cases {c : Char} (h : isBlank c = true) : c = ' ' ∨ c = '\t' ∨ c = '\n' := by
  simpa [isBlank, or_assoc] using h

theorem skipBlanks_gap {gap : List Char} (h : IsGap gap) (cs : List Char) :
    skipBlanks (gap ++ cs) = skipBlanks cs :=
  List.dropWhile_append_of_pos h

theorem skipBlanks_of_head {cs : List Char} (h : ∀ c ∈ cs.head?, isBlank c = false) :
    skipBlanks cs = cs := by
  cases cs with
  | nil => rfl
  | cons c rest =>
    have hc := h c rfl
    unfold skipBlanks
    rw [List.dropWhile_cons, hc]
    rfl

theorem exists_gap (cs : List Char) : ∃ gap, cs = gap ++ skipBlanks cs ∧ IsGap gap :=
  ⟨cs.takeWhile isBlank, List.takeWhile_append_dropWhile.symm, fun _ => List.mem_takeWhile_imp⟩

theorem not_blank_head?_skipBlanks {cs : List Char} {c : Char} (h : c ∈ (skipBlanks cs).head?) :
    isBlank c = false := by
  have hhead := List.head?_dropWhile_not isBlank cs
  have hc : (cs.dropWhile isBlank).head? = some c := h
  rwa [hc] at hhead

/-! ## Texts in quotes -/

/-- What an escape has behind its backslash: a letter, or the number of a character. -/
inductive IsEscape : List Char → Prop
  | letter {c : Char} (hc : c ∈ ['b', 't', 'n', 'f', 'r', '"', '\\']) : IsEscape [c]
  | number {mark : Char} {digits : List Char}
      (hmark : mark = 'u' ∧ digits.length = 4 ∨ mark = 'U' ∧ digits.length = 8)
      (hdigits : (Toml.charOfHex? digits).isSome = true) : IsEscape (mark :: digits)

/-- A text in quotes, without the first of them. -/
inductive IsQuoted : List Char → Prop
  | close : IsQuoted ['"']
  | escape {e rest : List Char} (he : IsEscape e) (h : IsQuoted rest) :
      IsQuoted ('\\' :: (e ++ rest))
  | char {c : Char} {rest : List Char} (hquote : c ≠ '"') (hbackslash : c ≠ '\\')
      (hcontrol : Toml.isControl c = false) (h : IsQuoted rest) : IsQuoted (c :: rest)

theorem readEscape_append {e : List Char} (h : IsEscape e) (rest : List Char) :
    ∃ c, Toml.readEscape (e ++ rest) = some (c, rest) := by
  cases h with
  | letter hc =>
    simp only [List.mem_cons, List.not_mem_nil, or_false] at hc
    rcases hc with rfl | rfl | rfl | rfl | rfl | rfl | rfl
    all_goals exact ⟨_, rfl⟩
  | number hmark hdigits =>
    rename_i mark digits
    obtain ⟨c, hc⟩ := Option.isSome_iff_exists.mp hdigits
    refine ⟨c, ?_⟩
    rcases hmark with ⟨rfl, hlength⟩ | ⟨rfl, hlength⟩
    · simp [Toml.readEscape, ← hlength, hc]
    · simp [Toml.readEscape, ← hlength, hc]

/-- The number of a character is a fixed count of digits behind its mark. -/
theorem exists_number {mark c : Char} {cs rest : List Char} {size : Nat}
    (hmark : mark = 'u' ∧ size = 4 ∨ mark = 'U' ∧ size = 8)
    (h : (if cs.length < size then none
      else (Toml.charOfHex? (cs.take size)).map (·, cs.drop size)) = some (c, rest)) :
    ∃ e, mark :: cs = e ++ rest ∧ IsEscape e := by
  obtain ⟨hlength, h⟩ := Option.ite_none_left_eq_some.mp h
  obtain ⟨d, hd, heq⟩ := Option.map_eq_some_iff.mp h
  obtain ⟨-, rfl⟩ := Prod.mk.inj heq
  have hsize : (cs.take size).length = size := by
    rw [List.length_take]
    omega
  refine ⟨mark :: cs.take size, ?_, .number (hsize.symm ▸ hmark) (by rw [hd]; rfl)⟩
  rw [List.cons_append, List.take_append_drop]

theorem exists_escape {cs rest : List Char} {c : Char} (h : Toml.readEscape cs = some (c, rest)) :
    ∃ e, cs = e ++ rest ∧ IsEscape e := by
  have hletter : ∀ (d x : Char) {more : List Char}, d ∈ ['b', 't', 'n', 'f', 'r', '"', '\\'] →
      some (x, more) = some (c, rest) → ∃ e, d :: more = e ++ rest ∧ IsEscape e := by
    intro d x more hd heq
    obtain ⟨-, rfl⟩ := Prod.mk.inj (Option.some.inj heq)
    exact ⟨[d], rfl, .letter hd⟩
  unfold Toml.readEscape at h
  split at h
  · exact hletter _ _ (by decide) h
  · exact hletter _ _ (by decide) h
  · exact hletter _ _ (by decide) h
  · exact hletter _ _ (by decide) h
  · exact hletter _ _ (by decide) h
  · exact hletter _ _ (by decide) h
  · exact hletter _ _ (by decide) h
  · exact exists_number (.inl ⟨rfl, rfl⟩) h
  · exact exists_number (.inr ⟨rfl, rfl⟩) h
  · contradiction

/-- A text in quotes is read whatever stands behind it. -/
theorem readQuoted_append {q : List Char} (h : IsQuoted q) {steps : Nat} (hsteps : q.length ≤ steps)
    (rest : List Char) : ∃ text, readQuoted steps (q ++ rest) = some (text, rest) := by
  induction h generalizing steps with
  | close =>
    cases steps with
    | zero => contradiction
    | succ steps => exact ⟨[], rfl⟩
  | escape he h ih =>
    cases steps with
    | zero => contradiction
    | succ steps =>
      rename_i e more
      have hmore : more.length ≤ steps := by
        simp only [List.length_cons, List.length_append] at hsteps
        omega
      obtain ⟨text, htext⟩ := ih hmore
      obtain ⟨c, hc⟩ := readEscape_append he (more ++ rest)
      refine ⟨c :: text, ?_⟩
      rw [List.cons_append, List.append_assoc, readQuoted, hc]
      simp [htext]
  | char hquote hbackslash hcontrol h ih =>
    cases steps with
    | zero => contradiction
    | succ steps =>
      obtain ⟨text, htext⟩ := ih (Nat.le_of_succ_le_succ hsteps)
      rename_i c more
      refine ⟨c :: text, ?_⟩
      rw [List.cons_append, readQuoted]
      · simp [hcontrol, htext]
      · exact hquote
      · exact hbackslash

/-- Only a text in quotes is read as one. What it stands for is shorter than it is. -/
theorem exists_quoted {steps : Nat} {cs text rest : List Char}
    (h : readQuoted steps cs = some (text, rest)) :
    ∃ q, cs = q ++ rest ∧ IsQuoted q ∧ text.length < q.length := by
  fun_induction readQuoted steps cs generalizing text with
  | case1 => contradiction
  | case2 => contradiction
  | case3 =>
    obtain ⟨rfl, rfl⟩ := Prod.mk.inj (Option.some.inj h)
    exact ⟨['"'], rfl, .close, Nat.one_pos⟩
  | case4 steps more ih =>
    obtain ⟨⟨c, left⟩, hescape, h⟩ := Option.bind_eq_some_iff.mp h
    obtain ⟨⟨tail, after⟩, htail, h⟩ := Option.bind_eq_some_iff.mp h
    obtain ⟨rfl, rfl⟩ := Prod.mk.inj (Option.some.inj h)
    obtain ⟨e, rfl, he⟩ := exists_escape hescape
    obtain ⟨q, rfl, hq, hlength⟩ := ih _ htail
    refine ⟨'\\' :: (e ++ q), by simp, .escape he hq, ?_⟩
    simp only [List.length_cons, List.length_append]
    omega
  | case5 steps c more hquote hbackslash jump hcontrol => contradiction
  | case6 steps c more hquote hbackslash jump hcontrol =>
    rename_i ih
    obtain ⟨⟨tail, left⟩, htail, h⟩ := Option.bind_eq_some_iff.mp h
    obtain ⟨rfl, rfl⟩ := Prod.mk.inj (Option.some.inj h)
    obtain ⟨q, rfl, hq, hlength⟩ := ih htail
    exact ⟨c :: q, rfl, .char hquote hbackslash (Bool.eq_false_iff.mpr hcontrol) hq,
      Nat.succ_lt_succ hlength⟩

theorem readText_append {q : List Char} (h : IsQuoted q) (rest : List Char) :
    ∃ s, readText (q ++ rest) = some (s, rest) := by
  have hsteps : q.length ≤ (q ++ rest).length + 1 := by
    rw [List.length_append]
    omega
  obtain ⟨text, htext⟩ := readQuoted_append h hsteps rest
  refine ⟨String.ofList text, ?_⟩
  rw [readText, htext]
  rfl

theorem exists_text {cs rest : List Char} {s : String} (h : readText cs = some (s, rest)) :
    ∃ q, cs = q ++ rest ∧ IsQuoted q ∧ s.toList.length < q.length := by
  obtain ⟨⟨text, left⟩, htext, heq⟩ := Option.map_eq_some_iff.mp h
  obtain ⟨rfl, rfl⟩ := Prod.mk.inj heq
  rw [String.toList_ofList]
  exact exists_quoted htext

/-! ## Keys -/

def isKeyChar (c : Char) : Bool := c.isAlphanum || c == '_' || c == '-'

/-- A key of a table: a text in quotes, or letters, digits, underscores and hyphens. -/
inductive IsKey : List Char → Prop
  | quoted {q : List Char} (h : IsQuoted q) : IsKey ('"' :: q)
  | word {word : List Char} (hne : word ≠ []) (h : ∀ c ∈ word, isKeyChar c = true) : IsKey word

/-- A key without quotes is read up to the first character that is none of its own. -/
theorem readKey_word {word rest : List Char} (hne : word ≠ [])
    (h : ∀ c ∈ word, isKeyChar c = true) (hrest : ∀ c ∈ rest.head?, isKeyChar c = false) :
    readKey (word ++ rest) = some (String.ofList word, rest) := by
  have htake : (word ++ rest).takeWhile isKeyChar = word := by
    rw [List.takeWhile_append_of_pos h]
    cases rest with
    | nil => exact List.append_nil word
    | cons c more => simp [hrest c rfl]
  have hdrop : (word ++ rest).dropWhile isKeyChar = rest := by
    rw [List.dropWhile_append_of_pos h]
    cases rest with
    | nil => rfl
    | cons c more => simp [hrest c rfl]
  unfold readKey
  split
  · rename_i more heq
    obtain ⟨c, tail, rfl⟩ := List.exists_cons_of_ne_nil hne
    obtain ⟨rfl, -⟩ := List.cons.inj heq
    exact absurd (h _ (List.mem_cons_self ..)) (by decide)
  · show (if ((word ++ rest).takeWhile isKeyChar).isEmpty then none
      else some (String.ofList ((word ++ rest).takeWhile isKeyChar),
        (word ++ rest).dropWhile isKeyChar)) = _
    rw [htake, hdrop, if_neg (mt List.isEmpty_iff.mp hne)]

theorem readKey_append {key rest : List Char} (h : IsKey key)
    (hrest : ∀ c ∈ rest.head?, isKeyChar c = false) :
    ∃ s, readKey (key ++ rest) = some (s, rest) := by
  cases h with
  | quoted h => exact readText_append h rest
  | word hne h => exact ⟨_, readKey_word hne h hrest⟩

theorem exists_key {cs rest : List Char} {s : String} (h : readKey cs = some (s, rest)) :
    ∃ key, cs = key ++ rest ∧ IsKey key := by
  unfold readKey at h
  split at h
  · obtain ⟨q, rfl, hq, -⟩ := exists_text h
    exact ⟨'"' :: q, rfl, .quoted hq⟩
  · obtain ⟨hne, heq⟩ := Option.ite_none_left_eq_some.mp h
    obtain ⟨-, rfl⟩ := Prod.mk.inj (Option.some.inj heq)
    exact ⟨_, List.takeWhile_append_dropWhile.symm,
      .word (mt List.isEmpty_iff.mpr hne) fun c => List.mem_takeWhile_imp⟩

end CloudGate.Settings.Variable
