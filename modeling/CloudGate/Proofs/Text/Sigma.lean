import CloudGate.Text.Fold

/-!
Folding of a part of a text. The neighbours of a part matter only for the capital sigmas in it, and
not even for these where the part itself settles their form.

* `foldBetween_append`: a text is folded part by part, each between its neighbours.
* `foldBetween_of_settled`: a part that settles its sigmas has one fold, wherever it stands.
* `containsFold_iff_settled`: such a query is found wherever it stands, and no other query is.
-/

namespace CloudGate.Text

/-! ## Search -/

theorem occursIn_iff (needle cs : List Char) : occursIn needle cs = true ↔ needle <:+: cs := by
  induction cs with
  | nil => rw [occursIn, List.isEmpty_iff, List.infix_nil]
  | cons c rest ih =>
    rw [occursIn, Bool.or_eq_true, List.isPrefixOf_iff_prefix, ih, List.infix_cons_iff]

theorem containsFold_iff (text query : String) :
    containsFold text query = true ↔ foldFrom [] query.toList <:+: foldFrom [] text.toList :=
  occursIn_iff _ _

/-! ## The form of a sigma -/

/-- The character that counts for a sigma next to the text, if the text has any. -/
def bearing? (cs : List Char) : Option Char := cs.find? fun c => !isCaseIgnorable c

theorem meetsCased_eq (cs : List Char) : meetsCased cs = (bearing? cs).any isCased := by
  unfold meetsCased bearing?
  cases cs.find? fun c => !isCaseIgnorable c <;> rfl

theorem bearing?_append (front back : List Char) :
    bearing? (front ++ back) = (bearing? front).or (bearing? back) :=
  List.find?_append

theorem bearing?_cons (c : Char) (rest : List Char) :
    bearing? (c :: rest) = if isCaseIgnorable c then bearing? rest else some c := by
  cases h : isCaseIgnorable c <;> simp [bearing?, h]

/-- A sigma counts for the other sigmas. -/
theorem bearing?_sigma (rest : List Char) : bearing? ('Σ' :: rest) = some 'Σ' := by
  have hsigma : isCaseIgnorable 'Σ' = false := by decide +kernel
  rw [bearing?_cons, hsigma, if_neg Bool.false_ne_true]

theorem sigma_not_mem {cs : List Char} (h : bearing? cs = none) : 'Σ' ∉ cs := by
  intro hmem
  obtain ⟨front, back, rfl⟩ := List.append_of_mem hmem
  rw [bearing?_append, bearing?_sigma] at h
  cases hfront : bearing? front with
  | none => simp [hfront] at h
  | some c => simp [hfront] at h

theorem lowerSigma_congr {before before' after after' : List Char}
    (hbefore : bearing? before = bearing? before') (hafter : bearing? after = bearing? after') :
    lowerSigma before after = lowerSigma before' after' := by
  simp only [lowerSigma, meetsCased_eq, hbefore, hafter]

/-- The form of a sigma between the texts is the same whatever stands beyond them. -/
def settlesSigma (before after : List Char) : Bool :=
  match bearing? before, bearing? after with
  | some _, some _ => true
  | some c, none => !isCased c
  | none, some c => isCased c
  | none, none => false

theorem lowerSigma_of_settled {before after : List Char} (h : settlesSigma before after = true)
    (front back : List Char) :
    lowerSigma (before ++ front) (after ++ back) = lowerSigma before after := by
  unfold settlesSigma at h
  simp only [lowerSigma, meetsCased_eq, bearing?_append]
  cases hbefore : bearing? before with
  | some b =>
    cases hafter : bearing? after with
    | some a => rfl
    | none =>
      -- not final, for what stands before it is not cased
      have hb : isCased b = false := by simpa [hbefore, hafter] using h
      simp [hb]
  | none =>
    cases hafter : bearing? after with
    | some a =>
      -- not final, for what stands after it is cased
      have ha : isCased a = true := by simpa [hbefore, hafter] using h
      simp [ha]
    | none => simp [hbefore, hafter] at h

/-! ## Parts of a text -/

/-- The fold of a part of a text, between `before`, in reverse, and `after`. -/
def foldBetween (before after : List Char) : List Char → List Char
  | [] => []
  | c :: rest =>
    (if c = 'Σ' then [lowerSigma before (rest ++ after)] else lowerChar c) ++
      foldBetween (c :: before) after rest

theorem foldBetween_nil (before cs : List Char) :
    foldBetween before [] cs = foldFrom before cs := by
  induction cs generalizing before with
  | nil => rfl
  | cons c rest ih => rw [foldBetween, foldFrom, ih, List.append_nil]

theorem foldBetween_append (before after front back : List Char) :
    foldBetween before after (front ++ back) =
      foldBetween before (back ++ after) front ++
        foldBetween (front.reverse ++ before) after back := by
  induction front generalizing before with
  | nil => rfl
  | cons c rest ih =>
    rw [List.cons_append, foldBetween, foldBetween, ih, List.append_assoc, List.append_assoc,
      List.reverse_cons, List.append_assoc]
    rfl

theorem foldFrom_append (before front back : List Char) :
    foldFrom before (front ++ back) =
      foldBetween before back front ++ foldFrom (front.reverse ++ before) back := by
  rw [← foldBetween_nil, foldBetween_append, List.append_nil, foldBetween_nil]

/-- Of the neighbours only the characters matter that count for a sigma. -/
theorem foldBetween_congr {before before' after after' : List Char}
    (hbefore : bearing? before = bearing? before') (hafter : bearing? after = bearing? after')
    (cs : List Char) : foldBetween before after cs = foldBetween before' after' cs := by
  induction cs generalizing before before' with
  | nil => rfl
  | cons c rest ih =>
    have hrest : bearing? (rest ++ after) = bearing? (rest ++ after') := by
      rw [bearing?_append, bearing?_append, hafter]
    have hnext : bearing? (c :: before) = bearing? (c :: before') := by
      rw [bearing?_cons, bearing?_cons, hbefore]
    rw [foldBetween, foldBetween, lowerSigma_congr hbefore hrest, ih hnext]

/-- Without a capital sigma the neighbours do not matter. -/
theorem foldBetween_of_no_sigma {cs : List Char} (h : 'Σ' ∉ cs) (before after : List Char) :
    foldBetween before after cs = cs.flatMap lowerChar := by
  induction cs generalizing before with
  | nil => rfl
  | cons c rest ih =>
    rw [List.mem_cons, not_or] at h
    rw [foldBetween, if_neg (Ne.symm h.1), ih h.2, List.flatMap_cons]

/-- Around a capital sigma. -/
theorem foldFrom_sigma (before front back : List Char) :
    foldFrom before (front ++ 'Σ' :: back) =
      foldBetween before ('Σ' :: back) front ++
        lowerSigma (front.reverse ++ before) back ::
          foldFrom ('Σ' :: (front.reverse ++ before)) back := by
  rw [foldFrom_append, foldFrom, if_pos rfl, List.singleton_append]

/-- A text that settles the form of each of its capital sigmas. -/
def IsSettled (cs : List Char) : Prop :=
  ∀ front back, cs = front ++ 'Σ' :: back → settlesSigma front.reverse back = true

/-- Each capital sigma is settled by the text around it, of which `before`, in reverse, has been
passed. -/
def settledFrom (before : List Char) : List Char → Bool
  | [] => true
  | c :: rest => (c != 'Σ' || settlesSigma before rest) && settledFrom (c :: before) rest

theorem settledFrom_iff (before cs : List Char) : settledFrom before cs = true ↔
    ∀ front back, cs = front ++ 'Σ' :: back →
      settlesSigma (front.reverse ++ before) back = true := by
  induction cs generalizing before with
  | nil => simp [settledFrom]
  | cons c rest ih =>
    rw [settledFrom, Bool.and_eq_true, ih]
    constructor
    · rintro ⟨hfirst, hrest⟩ front back hcs
      cases front with
      | nil =>
        obtain ⟨rfl, rfl⟩ := List.cons.inj hcs
        simpa using hfirst
      | cons d more =>
        obtain ⟨rfl, rfl⟩ := List.cons.inj hcs
        rw [List.reverse_cons, List.append_assoc]
        exact hrest more back rfl
    · intro h
      refine ⟨?_, fun front back hcs => ?_⟩
      · by_cases hc : c = 'Σ'
        · subst hc
          have hsettled : settlesSigma before rest = true := h [] rest rfl
          rw [hsettled, Bool.or_true]
        · rw [Bool.or_eq_true, bne_iff_ne]
          exact Or.inl hc
      · have hsettled := h (c :: front) back (by rw [hcs, List.cons_append])
        rwa [List.reverse_cons, List.append_assoc] at hsettled

instance (cs : List Char) : Decidable (IsSettled cs) :=
  decidable_of_iff (settledFrom [] cs = true) (by simp [settledFrom_iff, IsSettled])

/-- The sigmas of a settled text have the same forms wherever it stands. -/
theorem foldBetween_of_settled {before cs : List Char} (h : settledFrom before cs = true)
    (outer after : List Char) :
    foldBetween (before ++ outer) after cs = foldBetween before [] cs := by
  induction cs generalizing before with
  | nil => rfl
  | cons c rest ih =>
    rw [settledFrom, Bool.and_eq_true, Bool.or_eq_true, bne_iff_ne] at h
    obtain ⟨hfirst, hrest⟩ := h
    rw [foldBetween, foldBetween, ← ih hrest, List.append_nil]
    by_cases hc : c = 'Σ'
    · have hsettled := hfirst.resolve_left fun hne => hne hc
      rw [if_pos hc, if_pos hc, lowerSigma_of_settled hsettled]
      rfl
    · rw [if_neg hc, if_neg hc]
      rfl

/-! ## Literal hits -/

theorem containsFold_of_settled {text query : String} (hquery : IsSettled query.toList)
    (h : query.toList <:+: text.toList) : containsFold text query = true := by
  obtain ⟨front, back, htext⟩ := h
  have hsettled : settledFrom [] query.toList = true := by
    rw [settledFrom_iff]
    simpa [IsSettled] using hquery
  have hfold := foldBetween_of_settled hsettled front.reverse back
  rw [List.nil_append, foldBetween_nil] at hfold
  rw [containsFold_iff, ← htext, List.append_assoc, foldFrom_append, foldFrom_append,
    List.append_nil, hfold]
  exact ⟨_, _, List.append_assoc ..⟩

/-- A cased letter that is no sigma. -/
theorem alpha_bears : isCaseIgnorable 'α' = false ∧ isCased 'α' = true ∧ lowerChar 'α' = ['α'] := by
  decide +kernel

/-- A final sigma at the end of a query is not final before a letter. -/
theorem missed_before_letter {front back : List Char} {b : Char}
    (hfront : bearing? front.reverse = some b) (hb : isCased b = true)
    (hback : bearing? back = none) :
    ¬ foldFrom [] (front ++ 'Σ' :: back) <:+: foldFrom [] (front ++ 'Σ' :: (back ++ ['α'])) := by
  obtain ⟨halpha, hcased, hlower⟩ := alpha_bears
  have hend : bearing? (back ++ ['α']) = some 'α' := by
    rw [bearing?_append, hback, bearing?_cons, halpha]
    rfl
  have hfinal : lowerSigma (front.reverse ++ []) back = 'ς' := by
    simp [lowerSigma, meetsCased_eq, hfront, hback, hb]
  have hinner : lowerSigma (front.reverse ++ []) (back ++ ['α']) = 'σ' := by
    simp [lowerSigma, meetsCased_eq, hend, hcased]
  have hbefore : foldBetween [] ('Σ' :: (back ++ ['α'])) front =
      foldBetween [] ('Σ' :: back) front :=
    foldBetween_congr rfl (by rw [bearing?_sigma, bearing?_sigma]) front
  have hplain := foldBetween_of_no_sigma (sigma_not_mem hback)
  have hletter : ∀ before, foldFrom before ['α'] = ['α'] := fun before => by
    rw [foldFrom, if_neg (by decide), hlower, foldFrom, List.append_nil]
  intro h
  rw [foldFrom_sigma, foldFrom_sigma, hfinal, hinner, hbefore, foldFrom_append, hletter,
    ← foldBetween_nil, hplain, hplain] at h
  -- one final sigma less
  have hcount := h.sublist.count_le 'ς'
  simp only [List.count_append, List.count_cons_self, List.count_cons_of_ne (by decide : 'σ' ≠ 'ς'),
    List.count_cons_of_ne (by decide : 'α' ≠ 'ς'), List.count_nil] at hcount
  omega

/-- A sigma at the start of a query that is not final may be so behind a letter. -/
theorem missed_behind_letter {front back : List Char} (hfront : bearing? front.reverse = none)
    (hback : meetsCased back = false) :
    ¬ foldFrom [] (front ++ 'Σ' :: back) <:+: foldFrom [] ('α' :: (front ++ 'Σ' :: back)) := by
  obtain ⟨halpha, hcased, hlower⟩ := alpha_bears
  have hstart : bearing? (front.reverse ++ ['α']) = some 'α' := by
    rw [bearing?_append, hfront, bearing?_cons, halpha]
    rfl
  have hinner : lowerSigma (front.reverse ++ []) back = 'σ' := by
    simp [lowerSigma, meetsCased_eq front.reverse, hfront]
  have hfinal : lowerSigma (front.reverse ++ ['α']) back = 'ς' := by
    simp [lowerSigma, meetsCased_eq (front.reverse ++ ['α']), hstart, hcased, hback]
  have hplain := foldBetween_of_no_sigma fun hmem =>
    sigma_not_mem hfront (List.mem_reverse.mpr hmem)
  have hafter : foldFrom ('Σ' :: (front.reverse ++ ['α'])) back =
      foldFrom ('Σ' :: (front.reverse ++ [])) back := by
    rw [← foldBetween_nil, ← foldBetween_nil]
    exact foldBetween_congr (by rw [bearing?_sigma, bearing?_sigma]) rfl back
  intro h
  rw [foldFrom_sigma, foldFrom, if_neg (by decide), hlower, foldFrom_sigma, hinner, hfinal, hafter,
    hplain, hplain] at h
  -- one sigma less that is not final
  have hcount := h.sublist.count_le 'σ'
  simp only [List.count_append, List.count_cons_self, List.count_cons_of_ne (by decide : 'ς' ≠ 'σ'),
    List.count_cons_of_ne (by decide : 'α' ≠ 'σ'), List.count_nil] at hcount
  omega

/-- A query with a sigma that is not settled is missed in one of the texts that it stands in. -/
theorem missed_of_not_settled {query : String} (h : ¬ IsSettled query.toList) :
    ∃ text : String, query.toList <:+: text.toList ∧ containsFold text query = false := by
  obtain ⟨front, h⟩ := Classical.not_forall.mp h
  obtain ⟨back, h⟩ := Classical.not_forall.mp h
  obtain ⟨hquery, hsettled⟩ := Classical.not_imp.mp h
  have hmissed : ∀ cs, query.toList <:+: cs →
      ¬ foldFrom [] (front ++ 'Σ' :: back) <:+: foldFrom [] cs →
      ∃ text : String, query.toList <:+: text.toList ∧ containsFold text query = false := by
    intro cs hin hout
    refine ⟨String.ofList cs, by rwa [String.toList_ofList], ?_⟩
    rw [← Bool.not_eq_true, containsFold_iff, String.toList_ofList, hquery]
    exact hout
  rw [Bool.not_eq_true] at hsettled
  unfold settlesSigma at hsettled
  cases hfront : bearing? front.reverse with
  | some b =>
    cases hback : bearing? back with
    | some a => simp [hfront, hback] at hsettled
    | none =>
      have hb : isCased b = true := by simpa [hfront, hback] using hsettled
      refine hmissed _ ?_ (missed_before_letter hfront hb hback)
      rw [hquery]
      exact ⟨[], ['α'], by simp⟩
  | none =>
    have hback : meetsCased back = false := by
      rw [meetsCased_eq]
      cases hback : bearing? back with
      | some a => simpa [hfront, hback] using hsettled
      | none => rfl
    refine hmissed _ ?_ (missed_behind_letter hfront hback)
    rw [hquery]
    exact ⟨['α'], [], by simp⟩

/-- A query is found wherever it stands exactly if it settles the form of each of its sigmas. -/
theorem containsFold_iff_settled (query : String) :
    (∀ text : String, query.toList <:+: text.toList → containsFold text query = true) ↔
      IsSettled query.toList := by
  constructor
  · intro hfound
    refine Decidable.byContradiction fun hsettled => ?_
    obtain ⟨text, hin, hmissed⟩ := missed_of_not_settled hsettled
    rw [hfound text hin] at hmissed
    contradiction
  · exact fun hsettled text => containsFold_of_settled hsettled

end CloudGate.Text
