import CloudGate.Proofs.Fields.Rearrangement
import CloudGate.Toml.Document

/-!
The tables of a document list their members in order of their names, and each name once.

* `Ordered.toValue`: finished tables are in order, whatever the order of the lines.
* `Ordered.assign`, `KeepsOrder.alongHeader`: a line of a document adds nothing that is out of
  order.
* `ordered_readValue`: inline tables are in order, too.
* `ordered_of_parse?`: so all tables of a document are.
-/

namespace CloudGate

namespace Toml

inductive Value.Ordered : Value → Prop
  | str (s : String) : Ordered (.str s)
  | int (n : Int) : Ordered (.int n)
  | real (x : Decimal.Real) : Ordered (.real x)
  | bool (b : Bool) : Ordered (.bool b)
  | time (text : String) : Ordered (.time text)
  | array {items : List Value} (h : ∀ v ∈ items, Ordered v) : Ordered (.array items)
  | table {members : List (String × Value)} (hsorted : Fields.Sorted members)
    (h : ∀ m ∈ members, Ordered m.2) : Ordered (.table members)

namespace Tree

/-- The values in a document under construction are in order. Its own tables need not be yet. -/
inductive Ordered : Tree → Prop
  | value {v : Value} (h : v.Ordered) : Ordered (.value v)
  | table {origin : Origin} {members : List (String × Tree)} (h : ∀ m ∈ members, Ordered m.2) :
    Ordered (.table origin members)
  | tables {done : List Tree} {current : Tree} (hdone : ∀ t ∈ done, Ordered t)
    (hcurrent : Ordered current) : Ordered (.tables done current)

/-! ## Finished documents -/

theorem memberValues_eq_map (members : List (String × Tree)) :
    memberValues members = members.map fun m => (m.1, m.2.toValue) := by
  induction members with
  | nil => rfl
  | cons m rest ih =>
    obtain ⟨key, t⟩ := m
    rw [memberValues, ih, List.map_cons]

theorem itemValues_eq_map (items : List Tree) : itemValues items = items.map toValue := by
  induction items with
  | nil => rfl
  | cons t rest ih => rw [itemValues, ih, List.map_cons]

theorem Ordered.toValue {t : Tree} (h : t.Ordered) : t.toValue.Ordered := by
  induction h with
  | value h =>
    rw [Tree.toValue]
    exact h
  | table h ih =>
    rw [Tree.toValue, memberValues_eq_map]
    refine .table (Fields.sorted_ofList _) fun p hp => ?_
    obtain ⟨m, hm, rfl⟩ := List.mem_map.mp (Fields.mem_of_mem_ofList hp)
    exact ih m hm
  | tables hdone hcurrent ihdone ihcurrent =>
    rw [Tree.toValue, itemValues_eq_map]
    refine .array fun v hv => ?_
    rcases List.mem_append.mp hv with hv | hv
    · obtain ⟨t, ht, rfl⟩ := List.mem_map.mp hv
      exact ihdone t ht
    · rw [List.mem_singleton.mp hv]
      exact ihcurrent

/-! ## Members -/

theorem ordered_emptyTable (origin : Origin) : (emptyTable origin).Ordered :=
  .table (List.forall_mem_nil _)

theorem Ordered.member? {origin : Origin} {members : List (String × Tree)}
    (h : (Tree.table origin members).Ordered) {key : String} {t : Tree}
    (ht : member? members key = some t) : t.Ordered := by
  obtain ⟨m, hm, rfl⟩ := Option.map_eq_some_iff.mp ht
  cases h with
  | table h => exact h m (List.mem_of_find?_eq_some hm)

theorem Ordered.setMember {origin origin' : Origin} {members : List (String × Tree)}
    (h : (Tree.table origin members).Ordered) (key : String) {t : Tree} (ht : t.Ordered) :
    (Tree.table origin' (setMember members key t)).Ordered := by
  cases h with
  | table h =>
    refine .table fun m hm => ?_
    unfold Tree.setMember at hm
    split at hm
    · obtain ⟨m', hm', rfl⟩ := List.mem_map.mp hm
      split
      · exact ht
      · exact h m' hm'
    · rcases List.mem_append.mp hm with hm | hm
      · exact h m hm
      · rw [List.mem_singleton.mp hm]
        exact ht

/-- What a key leads to, or a new table. -/
theorem Ordered.memberOrNew {origin origin' : Origin} {members : List (String × Tree)}
    (h : (Tree.table origin members).Ordered) (key : String) :
    ((Tree.member? members key).getD (emptyTable origin')).Ordered := by
  cases ht : Tree.member? members key with
  | none => exact ordered_emptyTable _
  | some t => exact h.member? ht

/-! ## Lines -/

theorem Ordered.assign {v : Value} (hv : v.Ordered) {path : List String} {t t' : Tree}
    (h : t.Ordered) (ht : t.assign v path = some t') : t'.Ordered := by
  fun_induction Tree.assign v path t generalizing t' with
  | case1 | case4 | case6 | case8 | case9 => contradiction
  | case2 key origin members hnew =>
    obtain rfl := Option.some.inj ht
    exact h.setMember key (.value hv)
  | case3 key path origin members hpath inner hinner ih
  | case5 key path origin members hpath inner hinner hlength ih =>
    obtain ⟨t, hassign, ht⟩ := Option.bind_eq_some_iff.mp ht
    obtain rfl := Option.some.inj ht
    exact h.setMember key (ih (hinner ▸ h.memberOrNew key) hassign)
  | case7 key path origin members hpath done current hinner hlength ih =>
    obtain ⟨t, hassign, ht⟩ := Option.bind_eq_some_iff.mp ht
    obtain rfl := Option.some.inj ht
    have htables : (Tree.tables done current).Ordered := hinner ▸ h.memberOrNew key
    cases htables with
    | tables hdone hcurrent => exact h.setMember key (.tables hdone (ih hcurrent hassign))

/-- Whether a change keeps the order. -/
def KeepsOrder (change : Tree → Option Tree) : Prop :=
  ∀ t t', t.Ordered → change t = some t' → t'.Ordered

theorem KeepsOrder.atLast {change : Tree → Option Tree} (hchange : KeepsOrder change) :
    KeepsOrder (Tree.atLast change) := by
  intro t t' h ht
  fun_induction Tree.atLast change t generalizing t' with
  | case1 done current ih =>
    obtain ⟨t, hcurrent', rfl⟩ := Option.map_eq_some_iff.mp ht
    cases h with
    | tables hdone hcurrent => exact .tables hdone (ih _ hcurrent hcurrent')
  | case2 t hother => exact hchange t t' h ht

/-- A change that keeps the order may be made at the end of any header. -/
theorem KeepsOrder.alongHeader {change : Tree → Option Tree} (hchange : KeepsOrder change)
    (path : List String) : KeepsOrder (Tree.alongHeader change path) := by
  induction path with
  | nil => exact hchange.atLast
  | cons key path ih =>
    refine KeepsOrder.atLast fun t t' h ht => ?_
    cases t with
    | value v => contradiction
    | tables done current => contradiction
    | table origin members =>
      obtain ⟨inner, hinner, ht⟩ := Option.bind_eq_some_iff.mp ht
      obtain rfl := Option.some.inj ht
      exact h.setMember key (ih _ _ (h.memberOrNew key) hinner)

theorem Ordered.openTable {path : List String} {root root' : Tree} (h : root.Ordered)
    (hroot : root.openTable path = some root') : root'.Ordered := by
  unfold Tree.openTable at hroot
  split at hroot
  · contradiction
  · rename_i key _
    refine KeepsOrder.alongHeader (fun t t' ht hchange => ?_) path.dropLast _ _ h hroot
    cases t with
    | value v => contradiction
    | tables done current => contradiction
    | table origin members =>
      simp only at hchange
      split at hchange
      · obtain rfl := Option.some.inj hchange
        exact ht.setMember key (ordered_emptyTable _)
      · rename_i inner hinner
        obtain rfl := Option.some.inj hchange
        cases ht.member? hinner with
        | table hmembers => exact ht.setMember key (.table hmembers)
      · contradiction

theorem Ordered.openElement {path : List String} {root root' : Tree} (h : root.Ordered)
    (hroot : root.openElement path = some root') : root'.Ordered := by
  unfold Tree.openElement at hroot
  split at hroot
  · contradiction
  · rename_i key _
    refine KeepsOrder.alongHeader (fun t t' ht hchange => ?_) path.dropLast _ _ h hroot
    cases t with
    | value v => contradiction
    | tables done current => contradiction
    | table origin members =>
      simp only at hchange
      split at hchange
      · obtain rfl := Option.some.inj hchange
        exact ht.setMember key (.tables (List.forall_mem_nil _) (ordered_emptyTable _))
      · rename_i done current hinner
        obtain rfl := Option.some.inj hchange
        cases ht.member? hinner with
        | tables hdone hcurrent =>
          refine ht.setMember key (.tables (fun t hmem => ?_) (ordered_emptyTable _))
          rcases List.mem_append.mp hmem with hmem | hmem
          · exact hdone t hmem
          · rw [List.mem_singleton.mp hmem]
            exact hcurrent
      · contradiction

theorem Ordered.assignUnder {v : Value} (hv : v.Ordered) {header key : List String}
    {root root' : Tree} (h : root.Ordered)
    (hroot : root.assignUnder header key v = some root') : root'.Ordered :=
  KeepsOrder.alongHeader (fun _ _ ht hassign => ht.assign hv hassign) header _ _ h hroot

end Tree

/-! ## Values -/

theorem ordered_scalar? {word : List Char} {v : Value} (h : scalar? word = some v) :
    v.Ordered := by
  unfold scalar? at h
  split at h
  · obtain rfl := Option.some.inj h
    exact .bool _
  · split at h
    · obtain rfl := Option.some.inj h
      exact .bool _
    · split at h
      · obtain rfl := Option.some.inj h
        exact .int _
      · split at h
        · obtain rfl := Option.some.inj h
          exact .real _
        · split at h
          · obtain rfl := Option.some.inj h
            exact .time _
          · contradiction

/-- The values that a reader gives are in order. -/
def Reader.GivesOrdered (item : Reader Value) : Prop :=
  ∀ cs v rest, item cs = some (v, rest) → v.Ordered

theorem ordered_readItems {item : Reader Value} (hitem : Reader.GivesOrdered item) {steps : Nat}
    {cs rest : List Char} {vs : List Value} (h : readItems item steps cs = some (vs, rest)) :
    ∀ v ∈ vs, v.Ordered := by
  induction steps generalizing cs vs rest with
  | zero => contradiction
  | succ steps ih =>
    obtain ⟨gap, -, h⟩ := Option.bind_eq_some_iff.mp h
    simp only at h
    split at h
    · obtain ⟨rfl, rfl⟩ := Prod.mk.inj (Option.some.inj h)
      exact List.forall_mem_nil _
    · obtain ⟨⟨v, left⟩, hv, h⟩ := Option.bind_eq_some_iff.mp h
      obtain ⟨gap', -, h⟩ := Option.bind_eq_some_iff.mp h
      have hordered := hitem _ v left hv
      simp only at h
      split at h
      · obtain ⟨⟨more, left⟩, hmore, h⟩ := Option.bind_eq_some_iff.mp h
        obtain ⟨rfl, rfl⟩ := Prod.mk.inj (Option.some.inj h)
        exact List.forall_mem_cons.mpr ⟨hordered, ih hmore⟩
      · obtain ⟨rfl, rfl⟩ := Prod.mk.inj (Option.some.inj h)
        exact List.forall_mem_cons.mpr ⟨hordered, List.forall_mem_nil _⟩
      · contradiction

theorem ordered_readPairs {item : Reader Value} (hitem : Reader.GivesOrdered item) {steps : Nat}
    {cs rest : List Char} {t t' : Tree} (ht : t.Ordered)
    (h : readPairs item t steps cs = some (t', rest)) : t'.Ordered := by
  induction steps generalizing cs t rest with
  | zero => contradiction
  | succ steps ih =>
    obtain ⟨⟨path, left⟩, -, h⟩ := Option.bind_eq_some_iff.mp h
    simp only at h
    split at h
    · obtain ⟨⟨v, left⟩, hv, h⟩ := Option.bind_eq_some_iff.mp h
      obtain ⟨t₁, hassign, h⟩ := Option.bind_eq_some_iff.mp h
      have hordered := ht.assign (hitem _ v left hv) hassign
      simp only at h
      split at h
      · exact ih hordered h
      · obtain ⟨rfl, rfl⟩ := Prod.mk.inj (Option.some.inj h)
        exact hordered
      · contradiction
    · contradiction

theorem ordered_readValue (depth : Nat) : Reader.GivesOrdered (readValue depth) := by
  induction depth using Nat.strongRecOn with
  | ind depth ih =>
    intro cs v rest h
    unfold readValue at h
    split at h
    · obtain ⟨⟨s, left⟩, -, h⟩ := Option.map_eq_some_iff.mp h
      obtain ⟨rfl, rfl⟩ := Prod.mk.inj h
      exact .str _
    · obtain ⟨⟨s, left⟩, -, h⟩ := Option.map_eq_some_iff.mp h
      obtain ⟨rfl, rfl⟩ := Prod.mk.inj h
      exact .str _
    · split at h
      · contradiction
      · rename_i inner
        obtain ⟨⟨vs, left⟩, hitems, h⟩ := Option.map_eq_some_iff.mp h
        obtain ⟨rfl, rfl⟩ := Prod.mk.inj h
        exact .array (ordered_readItems (ih inner (Nat.lt_succ_self inner)) hitems)
    · split at h
      · contradiction
      · rename_i inner
        split at h
        · obtain ⟨rfl, rfl⟩ := Prod.mk.inj (Option.some.inj h)
          exact .table List.Pairwise.nil (List.forall_mem_nil _)
        · obtain ⟨⟨t, left⟩, hpairs, h⟩ := Option.map_eq_some_iff.mp h
          obtain ⟨rfl, rfl⟩ := Prod.mk.inj h
          have hinner := ih inner (Nat.lt_succ_self inner)
          exact (ordered_readPairs hinner (Tree.ordered_emptyTable .header) hpairs).toValue
    · obtain ⟨w, hscalar, h⟩ := Option.bind_eq_some_iff.mp h
      obtain ⟨rfl, rfl⟩ := Prod.mk.inj (Option.some.inj h)
      exact ordered_scalar? hscalar

/-! ## Documents -/

theorem ordered_readLineOf {state state' : State} {cs rest : List Char}
    (h : state.root.Ordered) (hline : readLineOf state cs = some (state', rest)) :
    state'.root.Ordered := by
  unfold readLineOf at hline
  split at hline
  · obtain ⟨rfl, rfl⟩ := Prod.mk.inj (Option.some.inj hline)
    exact h
  · obtain ⟨⟨path, left⟩, -, hline⟩ := Option.bind_eq_some_iff.mp hline
    obtain ⟨closed, -, hline⟩ := Option.bind_eq_some_iff.mp hline
    obtain ⟨root, hroot, hline⟩ := Option.bind_eq_some_iff.mp hline
    obtain ⟨after, -, hline⟩ := Option.bind_eq_some_iff.mp hline
    obtain ⟨rfl, rfl⟩ := Prod.mk.inj (Option.some.inj hline)
    exact h.openElement hroot
  · obtain ⟨⟨path, left⟩, -, hline⟩ := Option.bind_eq_some_iff.mp hline
    obtain ⟨closed, -, hline⟩ := Option.bind_eq_some_iff.mp hline
    obtain ⟨root, hroot, hline⟩ := Option.bind_eq_some_iff.mp hline
    obtain ⟨after, -, hline⟩ := Option.bind_eq_some_iff.mp hline
    obtain ⟨rfl, rfl⟩ := Prod.mk.inj (Option.some.inj hline)
    exact h.openTable hroot
  · split at hline
    · obtain ⟨after, -, hline⟩ := Option.bind_eq_some_iff.mp hline
      obtain ⟨rfl, rfl⟩ := Prod.mk.inj (Option.some.inj hline)
      exact h
    · obtain ⟨⟨path, left⟩, -, hline⟩ := Option.bind_eq_some_iff.mp hline
      obtain ⟨equals, -, hline⟩ := Option.bind_eq_some_iff.mp hline
      obtain ⟨⟨v, left⟩, hv, hline⟩ := Option.bind_eq_some_iff.mp hline
      obtain ⟨root, hroot, hline⟩ := Option.bind_eq_some_iff.mp hline
      obtain ⟨after, -, hline⟩ := Option.bind_eq_some_iff.mp hline
      obtain ⟨rfl, rfl⟩ := Prod.mk.inj (Option.some.inj hline)
      exact h.assignUnder (ordered_readValue _ _ v left hv) hroot

theorem ordered_readLines? {steps : Nat} {state : State} {cs : List Char} {root : Tree}
    (h : state.root.Ordered) (hlines : readLines? steps state cs = some root) :
    root.Ordered := by
  fun_induction readLines? steps state cs with
  | case1 steps state =>
    obtain rfl := Option.some.inj hlines
    exact h
  | case2 => contradiction
  | case3 steps state cs hsome ih =>
    obtain ⟨⟨state', rest⟩, hline, hlines⟩ := Option.bind_eq_some_iff.mp hlines
    exact ih _ _ (ordered_readLineOf h hline) hlines

/-- All tables of a document are in order. -/
theorem ordered_of_parse? {text : String} {members : Fields Value}
    (h : parse? text = some members) : (Value.table members).Ordered := by
  obtain ⟨root, hroot, h⟩ := Option.bind_eq_some_iff.mp h
  have hordered := (ordered_readLines? (Tree.ordered_emptyTable .header) hroot).toValue
  split at h
  · rename_i members' hvalue
    obtain rfl := Option.some.inj h
    rwa [hvalue] at hordered
  · contradiction

end Toml

end CloudGate
