import CloudGate.Json.Typed
import CloudGate.Proofs.Verdict
import Mathlib.Data.List.Forall2

/-!
Readers of JSON text that succeed: how they went on from one entry of a container to the next.

* `readElements_cases`, `readMembers_cases`: a container is closed, or there is one more entry.
* `readElements_of_entry`, `readMembers_of_entry`: the other way round.
* `forall₂_of_readElements`: readers that agree on elements agree on lists.
* `exists_readElements`: a reader that accepts all elements another one accepts accepts its lists.
* `exists_quote_of_readText`, `readValue_of_readText`: what is read as a text is a text for all
  readers.
-/

namespace CloudGate.Json

/-! ## Blanks -/

theorem skipSpace_length (cs : List Char) : (skipSpace cs).length ≤ cs.length :=
  (List.dropWhile_sublist _).length_le

theorem skipSpace_skipSpace (cs : List Char) : skipSpace (skipSpace cs) = skipSpace cs := by
  induction cs with
  | nil => rfl
  | cons c rest ih =>
    by_cases hc : isSpace c = true
    · have hskip : skipSpace (c :: rest) = skipSpace rest := by simp [skipSpace, hc]
      rw [hskip, ih]
    · have hskip : skipSpace (c :: rest) = c :: rest := by simp [skipSpace, hc]
      rw [hskip, hskip]

/-! ## Containers -/

/-- Where the next entry of a container starts: at once if it is the first, else behind a comma. -/
inductive NextEntry (frame : Frame) : Bool → List Char → List Char → Prop
  | first {cs more : List Char} {c : Char} (hcs : skipSpace cs = c :: more)
    (hopen : frame.closes c = false) : NextEntry frame true cs (c :: more)
  | next {cs more : List Char} (hcs : skipSpace cs = ',' :: more) :
    NextEntry frame false cs (skipSpace more)

theorem comma_not_closes (frame : Frame) : frame.closes ',' = false := by
  cases frame <;> rfl

theorem NextEntry.unique {frame : Frame} {first : Bool} {cs start start' : List Char}
    (h : NextEntry frame first cs start) (h' : NextEntry frame first cs start') :
    start = start' := by
  cases h with
  | first hcs hopen =>
    cases h' with
    | first hcs' hopen' => rw [← hcs, ← hcs']
  | next hcs =>
    cases h' with
    | next hcs' =>
      rw [hcs] at hcs'
      rw [(List.cons.inj hcs').2]

/-- A container that is closed has no next entry. -/
theorem NextEntry.not_closed {frame : Frame} {first : Bool} {cs start rest : List Char} {c : Char}
    (h : NextEntry frame first cs start) (hc : frame.closes c = true) :
    skipSpace cs ≠ c :: rest := by
  intro hclosed
  cases h with
  | first hcs hopen =>
    rw [hclosed] at hcs
    obtain ⟨rfl, -⟩ := List.cons.inj hcs
    rw [hc] at hopen
    contradiction
  | next hcs =>
    rw [hclosed] at hcs
    obtain ⟨rfl, -⟩ := List.cons.inj hcs
    rw [comma_not_closes] at hc
    contradiction

theorem NextEntry.skipSpace_eq {frame : Frame} {first : Bool} {cs start : List Char}
    (h : NextEntry frame first cs start) : skipSpace start = start := by
  cases h with
  | first hcs hopen => rw [← hcs, skipSpace_skipSpace]
  | next hcs => exact skipSpace_skipSpace _

theorem NextEntry.length_le {frame : Frame} {first : Bool} {cs start : List Char}
    (h : NextEntry frame first cs start) : start.length ≤ cs.length := by
  have hlength := skipSpace_length cs
  cases h with
  | first hcs hopen => rwa [hcs] at hlength
  | @next _ more hcs =>
    rw [hcs, List.length_cons] at hlength
    exact Nat.le_trans (skipSpace_length more) (Nat.le_of_succ_le hlength)

theorem readElements_cases {α : Type} {element : Reader α} {first : Bool} {n : Nat}
    {cs rest : List Char} {items : List α}
    (h : readElements element first (n + 1) cs = .ok (items, rest)) :
    (skipSpace cs = ']' :: rest ∧ items = []) ∨
      ∃ start a mid more, NextEntry .list first cs start ∧ element start = .ok (a, mid) ∧
        readElements element false n mid = .ok (more, rest) ∧ items = a :: more := by
  unfold readElements at h
  simp only at h
  split at h
  · contradiction
  · rename_i hcs
    obtain ⟨rfl, rfl⟩ := Prod.mk.inj (Except.ok.inj h)
    exact Or.inl ⟨hcs, rfl⟩
  · rename_i c more hopen hcs
    have entry : ∀ {start : List Char}, NextEntry .list first cs start →
        (element start >>= fun p => readElements element false n p.2 >>= fun q =>
          Except.ok (p.1 :: q.1, q.2)) = .ok (items, rest) →
        ∃ start a mid more, NextEntry .list first cs start ∧ element start = .ok (a, mid) ∧
          readElements element false n mid = .ok (more, rest) ∧ items = a :: more := by
      intro start hstart h
      obtain ⟨⟨a, mid⟩, ha, h⟩ := bind_eq_ok.mp h
      obtain ⟨⟨more, last⟩, hmore, hok⟩ := bind_eq_ok.mp h
      simp only [Except.ok.injEq, Prod.mk.injEq] at hok
      obtain ⟨rfl, rfl⟩ := hok
      exact ⟨start, a, mid, more, hstart, ha, hmore, rfl⟩
    refine Or.inr ?_
    split at h
    · rename_i hfirst
      subst hfirst
      rw [hcs] at h
      exact entry (.first hcs (by simpa [Frame.closes] using hopen)) h
    · rename_i hfirst
      rw [Bool.not_eq_true] at hfirst
      subst hfirst
      split at h
      · rename_i hcomma
        subst hcomma
        split at h
        · contradiction
        · contradiction
        · exact entry (.next hcs) h
      · contradiction

/-- The key of a member stands between the quote and the colon. -/
theorem readMembers_cases {α : Type} {value : String → Reader α} {first : Bool} {n : Nat}
    {cs rest : List Char} {members : List (String × α)}
    (h : readMembers value first (n + 1) cs = .ok (members, rest)) :
    (skipSpace cs = '}' :: rest ∧ members = []) ∨
      ∃ afterQuote key afterKey a mid more, NextEntry .object first cs ('"' :: afterQuote) ∧
        readString afterQuote = .ok (key, afterKey) ∧ value key afterKey = .ok (a, mid) ∧
        readMembers value false n mid = .ok (more, rest) ∧ members = (key, a) :: more := by
  unfold readMembers at h
  extract_lets start member at h
  have hcs : skipSpace cs = start := rfl
  clear_value start
  have entry : ∀ {afterQuote : List Char}, NextEntry .object first cs ('"' :: afterQuote) →
      member afterQuote = .ok (members, rest) →
      ∃ afterQuote key afterKey a mid more, NextEntry .object first cs ('"' :: afterQuote) ∧
        readString afterQuote = .ok (key, afterKey) ∧ value key afterKey = .ok (a, mid) ∧
        readMembers value false n mid = .ok (more, rest) ∧ members = (key, a) :: more := by
    intro afterQuote hstart h
    obtain ⟨⟨key, afterKey⟩, hkey, h⟩ := bind_eq_ok.mp h
    obtain ⟨⟨a, mid⟩, ha, h⟩ := bind_eq_ok.mp h
    obtain ⟨⟨more, last⟩, hmore, hok⟩ := bind_eq_ok.mp h
    simp only [Except.ok.injEq, Prod.mk.injEq] at hok
    obtain ⟨rfl, rfl⟩ := hok
    exact ⟨afterQuote, key, afterKey, a, mid, more, hstart, hkey, ha, hmore, rfl⟩
  split at h
  · contradiction
  · obtain ⟨rfl, rfl⟩ := Prod.mk.inj (Except.ok.inj h)
    exact Or.inl ⟨hcs, rfl⟩
  · rename_i c more hopen
    refine Or.inr ?_
    split at h
    · rename_i hfirst
      subst hfirst
      split at h
      · rename_i hquote
        subst hquote
        exact entry (.first hcs rfl) h
      · contradiction
    · rename_i hfirst
      rw [Bool.not_eq_true] at hfirst
      subst hfirst
      split at h
      · rename_i hcomma
        subst hcomma
        simp only at h
        split at h
        · contradiction
        · rename_i hquote
          exact entry (hquote ▸ .next hcs) h
        · contradiction
        · contradiction
      · contradiction

section Entries

variable {α : Type} {first : Bool} {cs rest : List Char}

theorem readElements_of_close {element : Reader α} (h : skipSpace cs = ']' :: rest) (n : Nat) :
    readElements element first (n + 1) cs = .ok ([], rest) := by
  unfold readElements
  simp only [h]

theorem readElements_of_entry {element : Reader α} {start mid more : List Char} {c : Char} {a : α}
    {as : List α} {n : Nat} (h : NextEntry .list first cs start) (hstart : start = c :: more)
    (hc : c ≠ ']') (ha : element start = .ok (a, mid))
    (has : readElements element false n mid = .ok (as, rest)) :
    readElements element first (n + 1) cs = .ok (a :: as, rest) := by
  have hread : (element start >>= fun p => readElements element false n p.2 >>= fun q =>
      Except.ok (p.1 :: q.1, q.2)) = .ok (a :: as, rest) :=
    bind_eq_ok.mpr ⟨_, ha, bind_eq_ok.mpr ⟨_, has, rfl⟩⟩
  unfold readElements
  cases h with
  | first hcs hopen =>
    obtain ⟨rfl, rfl⟩ := List.cons.inj hstart
    simp only [hcs, ↓reduceIte]
    exact hread
  | next hcs =>
    rw [hstart] at hread
    simpa [hcs, hstart, hc] using hread

theorem readMembers_of_close {value : String → Reader α} (h : skipSpace cs = '}' :: rest)
    (n : Nat) : readMembers value first (n + 1) cs = .ok ([], rest) := by
  unfold readMembers
  simp only [h]

theorem readMembers_of_entry {value : String → Reader α} {afterQuote afterKey mid : List Char}
    {key : String} {a : α} {members : List (String × α)} {n : Nat}
    (h : NextEntry .object first cs ('"' :: afterQuote))
    (hkey : readString afterQuote = .ok (key, afterKey)) (ha : value key afterKey = .ok (a, mid))
    (hmembers : readMembers value false n mid = .ok (members, rest)) :
    readMembers value first (n + 1) cs = .ok ((key, a) :: members, rest) := by
  have hread : (readString afterQuote >>= fun p => value p.1 p.2 >>= fun q =>
      readMembers value false n q.2 >>= fun r => Except.ok ((p.1, q.1) :: r.1, r.2)) =
        .ok ((key, a) :: members, rest) :=
    bind_eq_ok.mpr ⟨_, hkey, bind_eq_ok.mpr ⟨_, ha, bind_eq_ok.mpr ⟨_, hmembers, rfl⟩⟩⟩
  generalize hstart : '"' :: afterQuote = start at h
  unfold readMembers
  cases h with
  | first hcs hopen =>
    rw [← hstart] at hcs
    simp only [hcs]
    exact hread
  | next hcs =>
    simpa [hcs, ← hstart] using hread

end Entries

/-- Two readers that agree on the elements agree on the list. -/
theorem forall₂_of_readElements {α β : Type} {element : Reader α} {element' : Reader β}
    {R : α → β → Prop} (hagree : ∀ {cs a left b rest}, element cs = .ok (a, left) →
      element' cs = .ok (b, rest) → left = rest ∧ R a b)
    {first : Bool} {n : Nat} {cs left rest : List Char} {as : List α} {bs : List β}
    (h : readElements element first n cs = .ok (as, left))
    (h' : readElements element' first n cs = .ok (bs, rest)) :
    left = rest ∧ List.Forall₂ R as bs := by
  induction n generalizing first cs as bs with
  | zero => contradiction
  | succ n ih =>
    rcases readElements_cases h with ⟨hcs, rfl⟩ | ⟨start, a, mid, as', hstart, ha, has, rfl⟩
    · rcases readElements_cases h' with ⟨hcs', rfl⟩ | ⟨start', b, mid', bs', hstart', -⟩
      · rw [hcs] at hcs'
        exact ⟨(List.cons.inj hcs').2, .nil⟩
      · exact absurd hcs (hstart'.not_closed rfl)
    · rcases readElements_cases h' with
        ⟨hcs', rfl⟩ | ⟨start', b, mid', bs', hstart', hb, hbs, rfl⟩
      · exact absurd hcs' (hstart.not_closed rfl)
      · rw [hstart'.unique hstart] at hb
        obtain ⟨rfl, hab⟩ := hagree ha hb
        obtain ⟨hrest, hmore⟩ := ih has hbs
        exact ⟨hrest, .cons hab hmore⟩

/-- A reader that accepts what another one accepts as an element accepts its lists. -/
theorem exists_readElements {α β : Type} {element : Reader α} {element' : Reader β}
    {R : α → β → Prop}
    (hopens : ∀ {cs a rest}, element cs = .ok (a, rest) →
      ∃ c more, skipSpace cs = c :: more ∧ c ≠ ']')
    (haccept : ∀ {cs a rest}, element cs = .ok (a, rest) →
      ∃ b, element' cs = .ok (b, rest) ∧ R a b)
    {first : Bool} {n : Nat} {cs rest : List Char} {as : List α}
    (h : readElements element first n cs = .ok (as, rest)) :
    ∃ bs, readElements element' first n cs = .ok (bs, rest) ∧ List.Forall₂ R as bs := by
  induction n generalizing first cs as with
  | zero => contradiction
  | succ n ih =>
    rcases readElements_cases h with ⟨hcs, rfl⟩ | ⟨start, a, mid, as', hstart, ha, has, rfl⟩
    · exact ⟨[], readElements_of_close hcs n, .nil⟩
    · obtain ⟨c, more, hopen, hc⟩ := hopens ha
      rw [hstart.skipSpace_eq] at hopen
      obtain ⟨b, hb, hab⟩ := haccept ha
      obtain ⟨bs, hbs, hmore⟩ := ih has
      exact ⟨b :: bs, readElements_of_entry hstart hopen hc hb hbs, .cons hab hmore⟩

theorem readAll_eq_ok {α : Type} {reader : Reader α} {cs : List Char} {a : α}
    (h : readAll reader cs = .ok a) : ∃ rest, reader cs = .ok (a, rest) := by
  obtain ⟨⟨b, rest⟩, hread, hend⟩ := bind_eq_ok.mp h
  simp only at hend
  split at hend
  · obtain rfl := Except.ok.inj hend
    exact ⟨rest, hread⟩
  · contradiction

/-! ## Texts -/

theorem mismatchAt_ne_ok {α : Type} (expected : String) (cs : List Char) (a : α) :
    mismatchAt expected cs ≠ .ok a := by
  have hbind : ∀ {β : Type} {x : Except Fault β} {f : β → Except Fault α},
      (∀ b, f b ≠ .ok a) → (x >>= f) ≠ .ok a := by
    intro β x f hf hok
    obtain ⟨b, -, hb⟩ := bind_eq_ok.mp hok
    exact hf b hb
  unfold mismatchAt
  simp only
  split
  · exact fun h => nomatch h
  · exact hbind fun _ h => nomatch h
  · exact hbind fun _ h => nomatch h
  · exact hbind fun _ h => nomatch h
  · exact hbind fun _ h => nomatch h
  · exact fun h => nomatch h
  · exact fun h => nomatch h
  · split
    · split
      · exact hbind fun _ h => nomatch h
      · exact hbind fun _ h => nomatch h
    · exact fun h => nomatch h

theorem exists_quote_of_readText {cs rest : List Char} {s : String}
    (h : readText cs = .ok (s, rest)) :
    ∃ more, skipSpace cs = '"' :: more ∧ readString more = .ok (s, rest) := by
  unfold readText at h
  simp only at h
  split at h
  · contradiction
  · rename_i hcs
    exact ⟨_, hcs, h⟩
  · exact absurd h (mismatchAt_ne_ok _ _ _)

theorem readValue_of_readText {cs rest : List Char} {s : String} (h : readText cs = .ok (s, rest))
    (depth : Nat) : readValue depth cs = .ok (.str s, rest) := by
  obtain ⟨more, hcs, hstring⟩ := exists_quote_of_readText h
  unfold readValue
  simp only [hcs, hstring]
  rfl

end CloudGate.Json
