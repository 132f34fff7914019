import CloudGate.Gate
import CloudGate.Tool.Outcome
import Mathlib.Data.List.Destutter

/-!
The refusals of the gate. They depend on nothing but the set of the classifications, and their
message warns of each of these once.

* `occurrences_around`, `occurrences_sentence`: how often a part stands in a text, by a character
  that the part has only once.
* `distinct_eq_filter`, `distinct_eq_sorted`: sorting and then dropping repetitions leaves each
  classification of a list once, in the order of the warnings, however the list is sorted.
* `message_eq_sentences`: a message consists of the warnings and of one instruction.
* `refusal_canonical`: so lists of the same classifications are refused alike, and each of them is
  told once, in the order of the warnings.
-/

namespace CloudGate

/-! ## Parts of texts -/

namespace Text

/-- The number of places in a text at which a part begins. -/
def occurrences (part : List Char) : List Char → Nat
  | [] => if part.isEmpty then 1 else 0
  | c :: rest => (if part.isPrefixOf (c :: rest) then 1 else 0) + occurrences part rest

theorem occurrences_of_absent {part text : List Char} {c : Char} (hpart : c ∈ part)
    (htext : c ∉ text) : occurrences part text = 0 := by
  induction text with
  | nil =>
    cases part with
    | nil => contradiction
    | cons d more => rfl
  | cons d rest ih =>
    have hnot : ¬ part.isPrefixOf (d :: rest) = true := by
      rw [List.isPrefixOf_iff_prefix]
      exact fun hpre => htext (hpre.subset hpart)
    rw [occurrences, if_neg hnot, ih fun hc => htext (List.mem_cons_of_mem _ hc)]

theorem occurrences_cons_of_ne {c d : Char} (h : c ≠ d) (part text : List Char) :
    occurrences (c :: part) (d :: text) = occurrences (c :: part) text := by
  rw [occurrences, if_neg (by simp [h]), Nat.zero_add]

section Around

variable {sep : Char} {body : List Char}

/-- Two texts that go on behind a separator begin alike only if the separators meet. -/
theorem prefix_around_iff (hbody : sep ∉ body) {front : List Char} (hfront : sep ∉ front)
    (post rest : List Char) :
    body ++ sep :: post <+: front ++ sep :: rest ↔ body = front ∧ post <+: rest := by
  induction body generalizing front with
  | nil =>
    cases front with
    | nil => simp [List.cons_prefix_cons]
    | cons d front =>
      have hne : sep ≠ d := fun heq => hfront (heq ▸ List.mem_cons_self ..)
      simp [List.cons_prefix_cons, hne]
  | cons b body ih =>
    rw [List.mem_cons, not_or] at hbody
    cases front with
    | nil => simp [List.cons_prefix_cons, Ne.symm hbody.1]
    | cons d front =>
      rw [List.mem_cons, not_or] at hfront
      simp only [List.cons_append, List.cons_prefix_cons, ih hbody.2 hfront.2, List.cons.injEq,
        and_assoc]

/-- A part with a separator in it stands at the first separator of a text or behind it. -/
theorem occurrences_around (hbody : sep ∉ body) {front : List Char} (hfront : sep ∉ front)
    (post rest : List Char) :
    occurrences (body ++ sep :: post) (front ++ sep :: rest) =
      (if body <:+ front ∧ post <+: rest then 1 else 0) +
        occurrences (body ++ sep :: post) rest := by
  induction front with
  | nil =>
    have hstart := prefix_around_iff hbody hfront post rest
    rw [List.nil_append] at hstart ⊢
    simp only [occurrences, List.isPrefixOf_iff_prefix, hstart, List.suffix_nil]
  | cons d front ih =>
    have hstart := prefix_around_iff hbody hfront post rest
    rw [List.mem_cons, not_or] at hfront
    rw [List.cons_append] at hstart ⊢
    simp only [occurrences, List.isPrefixOf_iff_prefix, hstart, ih hfront.2,
      List.suffix_cons_iff]
    by_cases hwhole : body = d :: front
    · have hlonger : ¬ body <:+ front := fun hsuffix => by
        have hlength := hsuffix.length_le
        rw [hwhole, List.length_cons] at hlength
        omega
      simp [hwhole, hwhole ▸ hlonger]
    · simp [hwhole]

end Around

/-- A text that ends in a full stop and has no other one. -/
def IsSentence (s : List Char) : Prop := ∃ body, s = body ++ ['.'] ∧ '.' ∉ body

theorem IsSentence.cons {s : List Char} (h : IsSentence s) {c : Char} (hc : '.' ≠ c) :
    IsSentence (c :: s) := by
  obtain ⟨body, rfl, hbody⟩ := h
  exact ⟨c :: body, rfl, by simp [hc, hbody]⟩

/-- A sentence stands among sentences as often as it ends one of them. -/
theorem occurrences_sentence {s : List Char} (hs : IsSentence s) {sentences : List (List Char)}
    (h : ∀ t ∈ sentences, IsSentence t) :
    occurrences s sentences.flatten = sentences.countP fun t => s.isSuffixOf t := by
  obtain ⟨body, rfl, hbody⟩ := hs
  induction sentences with
  | nil => cases body <;> rfl
  | cons t rest ih =>
    obtain ⟨ht, hrest⟩ := List.forall_mem_cons.mp h
    obtain ⟨front, rfl, hfront⟩ := ht
    have hends : body ++ ['.'] <:+ front ++ ['.'] ↔ body <:+ front := by
      constructor
      · rintro ⟨before, heq⟩
        rw [← List.append_assoc] at heq
        exact ⟨before, List.append_cancel_right heq⟩
      · rintro ⟨before, rfl⟩
        exact ⟨before, (List.append_assoc ..).symm⟩
    rw [List.flatten_cons, List.append_assoc, List.singleton_append,
      occurrences_around hbody hfront, ih hrest, List.countP_cons, Nat.add_comm]
    simp only [List.nil_prefix, and_true, List.isSuffixOf_iff_suffix, hends]

/-- What stands in a list of texts one behind the other, stands so in the whole text. -/
theorem flatten_ordered {α : Type} (f : α → List Char) (items : List α) (behind : List Char) :
    items.Pairwise fun a b => ∃ before between after,
      (items.map f).flatten ++ behind = before ++ f a ++ between ++ f b ++ after := by
  induction items with
  | nil => exact .nil
  | cons a rest ih =>
    refine List.pairwise_cons.mpr ⟨fun b hb => ?_, ih.imp fun {c d} hcd => ?_⟩
    · obtain ⟨front, back, rfl⟩ := List.append_of_mem hb
      exact ⟨[], (front.map f).flatten, (back.map f).flatten ++ behind, by simp⟩
    · obtain ⟨before, between, after, heq⟩ := hcd
      refine ⟨f a ++ before, between, after, ?_⟩
      simp only [List.map_cons, List.flatten_cons, List.append_assoc] at heq ⊢
      rw [heq]

end Text

/-! ## Classifications -/

namespace Classification

theorem getElem?_rank (c : Classification) : all[c.rank]? = some c := by
  cases c <;> rfl

theorem rank_injective {c d : Classification} (h : c.rank = d.rank) : c = d := by
  have hc := c.getElem?_rank
  rw [h, d.getElem?_rank] at hc
  exact (Option.some.inj hc).symm

theorem mem_all (c : Classification) : c ∈ all := by
  cases c <;> decide

theorem place_perm (c : Classification) (classes : List Classification) :
    (place c classes).Perm (c :: classes) := by
  induction classes with
  | nil => exact .refl _
  | cons d rest ih =>
    unfold place
    split
    · exact .refl _
    · exact (ih.cons d).trans (.swap ..)

theorem place_sorted (c : Classification) {classes : List Classification}
    (h : classes.Pairwise fun c d => c.rank ≤ d.rank) :
    (place c classes).Pairwise fun c d => c.rank ≤ d.rank := by
  induction classes with
  | nil => exact List.pairwise_singleton _ c
  | cons d rest ih =>
    obtain ⟨hfirst, hrest⟩ := List.pairwise_cons.mp h
    unfold place
    split
    · rename_i hle
      refine List.pairwise_cons.mpr ⟨fun e he => ?_, h⟩
      rcases List.mem_cons.mp he with rfl | he
      · exact hle
      · exact Nat.le_trans hle (hfirst e he)
    · rename_i hlt
      refine List.pairwise_cons.mpr ⟨fun e he => ?_, ih hrest⟩
      rcases List.mem_cons.mp ((place_perm c rest).mem_iff.mp he) with rfl | he
      · omega
      · exact hfirst e he

theorem sort_perm (classes : List Classification) : (sort classes).Perm classes := by
  induction classes with
  | nil => exact .refl _
  | cons c rest ih => exact (place_perm c _).trans (ih.cons c)

theorem sort_sorted (classes : List Classification) :
    (sort classes).Pairwise fun c d => c.rank ≤ d.rank := by
  induction classes with
  | nil => exact .nil
  | cons c rest ih => exact place_sorted c ih

/-- Dropping what repeats its neighbour, in one go or member by member. -/
theorem eraseReps_eq_destutter (classes : List Classification) :
    classes.eraseReps = classes.destutter (· ≠ ·) := by
  have hloop : ∀ (rest kept : List Classification) (c : Classification),
      List.eraseRepsBy.loop (· == ·) c rest kept = kept.reverse ++ rest.destutter' (· ≠ ·) c := by
    intro rest
    induction rest with
    | nil => exact fun kept c => List.reverse_cons
    | cons d rest ih =>
      intro kept c
      unfold List.eraseRepsBy.loop List.destutter'
      by_cases hsame : c = d
      · simp [hsame, ih]
      · have hunequal : (c == d) = false := beq_eq_false_iff_ne.mpr hsame
        simp [hsame, hunequal, ih]
  cases classes with
  | nil => rfl
  | cons c rest => exact hloop rest [] c

/-- In a sorted list equal classifications stand together, so that dropping what repeats its
neighbour leaves each of them once. -/
theorem distinct_eq_dedup (classes : List Classification) :
    distinct classes = (sort classes).dedup := by
  have hantisymm : Std.Antisymm fun c d : Classification => c.rank ≤ d.rank :=
    ⟨fun c d hcd hdc => rank_injective (Nat.le_antisymm hcd hdc)⟩
  unfold distinct
  rw [eraseReps_eq_destutter, (sort_sorted classes).destutter_eq_dedup]

theorem mem_distinct {classes : List Classification} {c : Classification} :
    c ∈ distinct classes ↔ c ∈ classes := by
  rw [distinct_eq_dedup, List.mem_dedup, (sort_perm classes).mem_iff]

theorem distinct_increasing (classes : List Classification) :
    (distinct classes).Pairwise fun c d => c.rank < d.rank := by
  rw [distinct_eq_dedup]
  have hle := (sort_sorted classes).sublist (List.dedup_sublist _)
  refine (hle.and (List.nodup_dedup _)).imp fun {c d} hcd => ?_
  exact Nat.lt_of_le_of_ne hcd.1 fun heq => hcd.2 (rank_injective heq)

theorem nodup_of_increasing {classes : List Classification}
    (h : classes.Pairwise fun c d => c.rank < d.rank) : classes.Nodup :=
  h.imp fun {c d} (hlt : c.rank < d.rank) heq => Nat.ne_of_lt hlt (congrArg rank heq)

/-- There is only one increasing list of given classifications. -/
theorem eq_of_increasing {classes classes' : List Classification}
    (h : classes.Pairwise fun c d => c.rank < d.rank)
    (h' : classes'.Pairwise fun c d => c.rank < d.rank)
    (hsame : ∀ c, c ∈ classes ↔ c ∈ classes') : classes = classes' := by
  refine List.Perm.eq_of_pairwise (fun c d _ _ hcd hdc => ?_) h h' ?_
  · exact absurd hcd (Nat.lt_asymm hdc)
  · exact (List.perm_ext_iff_of_nodup (nodup_of_increasing h) (nodup_of_increasing h')).mpr hsame

theorem distinct_eq_of_mem_iff {classes classes' : List Classification}
    (h : ∀ c, c ∈ classes' ↔ c ∈ classes) : distinct classes' = distinct classes :=
  eq_of_increasing (distinct_increasing _) (distinct_increasing _) fun c => by
    rw [mem_distinct, mem_distinct, h]

/-- The distinct classifications are those of all that are in the list. -/
theorem distinct_eq_filter (classes : List Classification) :
    distinct classes = all.filter (classes.contains ·) := by
  have hall : all.Pairwise fun c d => c.rank < d.rank := by decide
  refine eq_of_increasing (distinct_increasing _) (hall.filter _) fun c => ?_
  rw [mem_distinct, List.mem_filter, List.contains_iff_mem]
  exact (and_iff_right c.mem_all).symm

/-- There is only one sorted list of given members, however it is sorted. -/
theorem distinct_eq_sorted (classes : List Classification) :
    distinct classes =
      (classes.mergeSort fun c d => decide (c.rank ≤ d.rank)).destutter (· ≠ ·) := by
  have hmerged : (classes.mergeSort fun c d => decide (c.rank ≤ d.rank)).Pairwise
      fun c d => c.rank ≤ d.rank := by
    have htrans : ∀ a b c : Classification, decide (a.rank ≤ b.rank) = true →
        decide (b.rank ≤ c.rank) = true → decide (a.rank ≤ c.rank) = true := by
      simpa using fun a b c => Nat.le_trans
    have htotal : ∀ a b : Classification,
        (decide (a.rank ≤ b.rank) || decide (b.rank ≤ a.rank)) = true := by
      simpa using fun a b => Nat.le_total ..
    exact (List.pairwise_mergeSort htrans htotal classes).imp of_decide_eq_true
  have hsort : sort classes = classes.mergeSort fun c d => decide (c.rank ≤ d.rank) := by
    refine List.Perm.eq_of_pairwise (fun c d _ _ hcd hdc => ?_) (sort_sorted classes) hmerged ?_
    · exact rank_injective (Nat.le_antisymm hcd hdc)
    · exact (sort_perm classes).trans (List.mergeSort_perm ..).symm
  unfold distinct
  rw [eraseReps_eq_destutter, hsort]

end Classification

/-! ## Refusals -/

namespace Gate

/-- What the caller has to do. -/
def instruction : String := "Set confirm=true to proceed."

theorem isSentence_instruction : Text.IsSentence instruction.toList := by
  have hchars : instruction.toList = instruction.toList.dropLast ++ ['.'] ∧
      '.' ∉ instruction.toList.dropLast := by decide +kernel
  exact ⟨_, hchars⟩

/-- How a warning is worded: a sentence that ends no other one, nor the instruction, and has no sign
of equality in it. -/
structure WellWorded (c : Classification) : Prop where
  sentence : Text.IsSentence c.warning.toList
  opening : c.warning.toList.head? = some 'T'
  unequal : '=' ∉ c.warning.toList
  distinct : ∀ d : Classification,
    c.warning.toList.isSuffixOf (' ' :: d.warning.toList) = (d == c)
  apart : c.warning.toList.isSuffixOf (' ' :: instruction.toList) = false ∧
    instruction.toList.isSuffixOf (' ' :: c.warning.toList) = false

theorem wellWorded (c : Classification) : WellWorded c := by
  have hall : ∀ c ∈ Classification.all,
      (c.warning.toList = c.warning.toList.dropLast ++ ['.'] ∧
        '.' ∉ c.warning.toList.dropLast) ∧
      c.warning.toList.head? = some 'T' ∧ '=' ∉ c.warning.toList ∧
      (∀ d ∈ Classification.all,
        c.warning.toList.isSuffixOf (' ' :: d.warning.toList) = (d == c)) ∧
      c.warning.toList.isSuffixOf (' ' :: instruction.toList) = false ∧
      instruction.toList.isSuffixOf (' ' :: c.warning.toList) = false := by decide +kernel
  obtain ⟨hsentence, hopening, hunequal, hdistinct, hapart⟩ := hall c c.mem_all
  exact ⟨⟨_, hsentence⟩, hopening, hunequal, fun d => hdistinct d d.mem_all, hapart⟩

namespace Refusal

/-- The sentences of a message, each with the blank before it. -/
def sentences (r : Refusal) : List (List Char) :=
  r.classifications.map (fun c => ' ' :: c.warning.toList) ++ [' ' :: instruction.toList]

theorem blank_intercalate {pieces : List (List Char)} (h : pieces ≠ []) :
    ' ' :: [' '].intercalate pieces = (pieces.map (' ' :: ·)).flatten := by
  induction pieces with
  | nil => contradiction
  | cons p rest ih =>
    cases rest with
    | nil => simp
    | cons q more =>
      rw [List.intercalate_cons_cons, List.map_cons, List.flatten_cons, ← ih (List.cons_ne_nil _ _)]
      simp

/-- With a blank in front a message is the warnings and the instruction, each behind a blank. -/
theorem message_eq_sentences {r : Refusal} (h : r.classifications ≠ []) :
    ' ' :: r.message.toList = r.sentences.flatten := by
  have hwarnings : r.classifications.map (·.warning.toList) ≠ [] := by simpa using h
  have hinstruction : (" Set confirm=true to proceed.".toList : List Char) =
      ' ' :: instruction.toList := by decide +kernel
  have hblank : (" ".toList : List Char) = [' '] := by decide +kernel
  unfold message sentences
  rw [String.toList_append, String.toList_intercalate, hblank, hinstruction, List.map_map,
    List.flatten_append, ← List.cons_append]
  show ' ' :: [' '].intercalate (r.classifications.map (·.warning.toList)) ++ _ = _
  rw [blank_intercalate hwarnings, List.map_map]
  simp [Function.comp_def]

theorem isSentence_of_mem {r : Refusal} {s : List Char} (h : s ∈ r.sentences) :
    Text.IsSentence s := by
  simp only [sentences, List.mem_append, List.mem_map, List.mem_singleton] at h
  rcases h with ⟨c, -, rfl⟩ | rfl
  · exact (wellWorded c).sentence.cons (by decide)
  · exact isSentence_instruction.cons (by decide)

/-- The blank in front is of no account for a part that does not begin with one. -/
theorem occurrences_message {r : Refusal} (h : r.classifications ≠ []) {part : List Char} {c : Char}
    (hpart : part.head? = some c) (hc : c ≠ ' ') :
    Text.occurrences part r.message.toList = Text.occurrences part r.sentences.flatten := by
  obtain ⟨more, rfl⟩ := List.head?_eq_some_iff.mp hpart
  rw [← message_eq_sentences h]
  exact (Text.occurrences_cons_of_ne hc _ _).symm

theorem occurrences_warning {r : Refusal} (h : r.classifications ≠ []) (c : Classification) :
    Text.occurrences c.warning.toList r.message.toList = r.classifications.count c := by
  have hc := wellWorded c
  rw [occurrences_message h hc.opening (by decide),
    Text.occurrences_sentence hc.sentence fun s => isSentence_of_mem, sentences,
    List.countP_append, List.countP_map, List.countP_singleton, hc.apart.1,
    if_neg Bool.false_ne_true, Nat.add_zero, List.count]
  exact List.countP_congr fun d _ => by simp [hc.distinct]

theorem occurrences_instruction {r : Refusal} (h : r.classifications ≠ []) :
    Text.occurrences instruction.toList r.message.toList = 1 := by
  have hopening : instruction.toList.head? = some 'S' := by decide +kernel
  have hself : instruction.toList.isSuffixOf (' ' :: instruction.toList) = true := by
    decide +kernel
  rw [occurrences_message h hopening (by decide),
    Text.occurrences_sentence isSentence_instruction fun s => isSentence_of_mem, sentences,
    List.countP_append, List.countP_map, List.countP_singleton, if_pos hself, Nat.add_eq_right]
  refine List.countP_eq_zero.mpr fun c _ => ?_
  rw [Function.comp_apply, (wellWorded c).apart.2]
  exact Bool.false_ne_true

/-- The sign of equality stands in the instruction only. -/
theorem occurrences_confirm {r : Refusal} (h : r.classifications ≠ []) :
    Text.occurrences "confirm=true".toList r.message.toList = 1 := by
  have hpart : ("confirm=true".toList : List Char) = "confirm".toList ++ '=' :: "true".toList := by
    decide +kernel
  have hlast : ' ' :: instruction.toList =
      " Set confirm".toList ++ '=' :: "true to proceed.".toList := by decide +kernel
  let front := (r.classifications.map fun c => ' ' :: c.warning.toList).flatten
  have hfront : '=' ∉ front ++ " Set confirm".toList := by
    rw [List.mem_append, not_or]
    refine ⟨fun hmem => ?_, by decide +kernel⟩
    obtain ⟨s, hs, hmem⟩ := List.mem_flatten.mp hmem
    obtain ⟨c, -, rfl⟩ := List.mem_map.mp hs
    rcases List.mem_cons.mp hmem with heq | hmem
    · exact absurd heq (by decide)
    · exact (wellWorded c).unequal hmem
  have hsuffix : "confirm".toList <:+ front ++ " Set confirm".toList :=
    (by decide +kernel : "confirm".toList <:+ " Set confirm".toList).trans (List.suffix_append ..)
  have hprefix : "true".toList <+: "true to proceed.".toList := by decide +kernel
  have htext : r.sentences.flatten =
      (front ++ " Set confirm".toList) ++ '=' :: "true to proceed.".toList := by
    rw [sentences, List.flatten_append, List.flatten_singleton, hlast, List.append_assoc]
  have hopening : ("confirm=true".toList : List Char).head? = some 'c' := by decide +kernel
  rw [occurrences_message h hopening (by decide), htext, hpart,
    Text.occurrences_around (by decide +kernel) hfront, if_pos ⟨hsuffix, hprefix⟩,
    Text.occurrences_of_absent (c := '=') (by simp) (by decide +kernel)]

/-- The warnings stand in the message in the order of the classifications. -/
theorem message_ordered {r : Refusal} (h : r.classifications ≠ []) :
    r.classifications.Pairwise fun c d => ∃ before between after,
      r.message = before ++ c.warning ++ between ++ d.warning ++ after := by
  have hpairs := Text.flatten_ordered (fun c : Classification => ' ' :: c.warning.toList)
    r.classifications (' ' :: instruction.toList)
  refine hpairs.imp fun {c d} hcd => ?_
  obtain ⟨before, between, after, heq⟩ := hcd
  have hmessage := message_eq_sentences h
  rw [sentences, List.flatten_append, List.flatten_singleton, heq] at hmessage
  -- The blank in front of the message is the first character of what stands before the warning.
  refine ⟨String.ofList ((before ++ [' ']).drop 1), String.ofList (between ++ [' ']),
    String.ofList after, String.toList_injective ?_⟩
  have htail := congrArg (List.drop 1) hmessage
  rw [List.drop_one, List.tail_cons] at htail
  rw [htail]
  cases before <;> simp

theorem message_ended (r : Refusal) : ∃ before, r.message = before ++ instruction := by
  refine ⟨" ".intercalate (r.classifications.map (·.warning)) ++ " ", ?_⟩
  rw [message, String.append_assoc]
  rfl

/-- What a refusal tells of the classifications that caused it. -/
structure Tells (r : Refusal) (classes : List Classification) : Prop where
  increasing : r.classifications.Pairwise fun c d => c.rank < d.rank
  members : ∀ c, c ∈ r.classifications ↔ c ∈ classes
  sorted : r.classifications =
    (classes.mergeSort fun c d => decide (c.rank ≤ d.rank)).destutter (· ≠ ·)
  warned : ∀ c, Text.occurrences c.warning.toList r.message.toList = if c ∈ classes then 1 else 0
  ordered : r.classifications.Pairwise fun c d => ∃ before between after,
    r.message = before ++ c.warning ++ between ++ d.warning ++ after
  confirm : Text.occurrences "confirm=true".toList r.message.toList = 1
  instructed : Text.occurrences instruction.toList r.message.toList = 1 ∧
    ∃ before, r.message = before ++ instruction
  details : (ToolError.ofRefusal r).details =
    some (",".intercalate (r.classifications.map (·.name)))

theorem tells_distinct {classes : List Classification} (h : classes ≠ []) :
    Tells ⟨Classification.distinct classes⟩ classes := by
  let r : Refusal := ⟨Classification.distinct classes⟩
  have hne : r.classifications ≠ [] := by
    obtain ⟨c, hc⟩ := List.exists_mem_of_ne_nil classes h
    exact List.ne_nil_of_mem (Classification.mem_distinct.mpr hc)
  have hincreasing := Classification.distinct_increasing classes
  refine ⟨hincreasing, fun c => Classification.mem_distinct,
    Classification.distinct_eq_sorted classes, fun c => ?_, message_ordered hne,
    occurrences_confirm hne, ⟨occurrences_instruction hne, message_ended r⟩, rfl⟩
  rw [occurrences_warning (r := r) hne,
    (Classification.nodup_of_increasing hincreasing).count]
  exact if_congr Classification.mem_distinct rfl rfl

end Refusal

/-- Without consent the answer of the gate depends on the set of the classifications only. Without
any the call passes, and else the refusal lists each of them once in the order of the warnings, and
its message warns of each once, in this order, and tells once what to do. -/
theorem refusal_canonical (classes : List Classification) :
    (∀ classes', (∀ c, c ∈ classes' ↔ c ∈ classes) → pass false classes' = pass false classes) ∧
      (classes = [] → pass false classes = .ok ()) ∧
      (classes ≠ [] → ∃ r, pass false classes = .error r ∧ r.Tells classes) := by
  refine ⟨fun classes' hsame => ?_, ?_, fun hne => ?_⟩
  · have hempty : classes'.isEmpty = classes.isEmpty := by
      rw [Bool.eq_iff_iff, List.isEmpty_iff, List.isEmpty_iff, List.eq_nil_iff_forall_not_mem,
        List.eq_nil_iff_forall_not_mem]
      simp only [hsame]
    unfold pass
    rw [hempty, Classification.distinct_eq_of_mem_iff hsame]
  · rintro rfl
    rfl
  · have hgated : classes.isEmpty = false := by simpa using hne
    refine ⟨_, ?_, Refusal.tells_distinct hne⟩
    simp [pass, hgated]

/-- Repetitions apart from each other count once, too. -/
example : pass false [.secretExposure, .billable, .secretExposure] =
    .error ⟨[.billable, .secretExposure]⟩ := rfl

end Gate

end CloudGate
