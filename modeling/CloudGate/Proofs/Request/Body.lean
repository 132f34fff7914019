import CloudGate.Proofs.Catalog.Dispatch
import CloudGate.Proofs.Fields.Rearrangement
import Mathlib.Data.List.Perm.Basic

/-!
The bodies of requests: where an argument goes that has no place in the path.

* `fillPath_left`: the path takes the arguments that it has places for and leaves the others.
* `rename_perm`, `leaves_nest`: renaming and nesting move arguments and lose none.
* `leaves_members`: so a body holds each argument that was left, once and at its own spot.
-/

namespace CloudGate.Request

/-! ## Spots -/

/-- Where a value stands in a body. -/
inductive Spot
  | member (name : String)
  | inside (object name : String)
  deriving DecidableEq, Repr

/-- The name under which a value stands. -/
def Spot.label : Spot → String
  | .member name => name
  | .inside _ name => name

/-- What one member brings into a body. Of the nesting object only its members count. -/
def leavesOf (object : Option String) : String × Json → List (Spot × Json)
  | (name, .obj inner) =>
    if object = some name then inner.map fun p => (.inside name p.1, p.2)
    else [(.member name, .obj inner)]
  | (name, v) => [(.member name, v)]

/-- All values of a body with their spots. -/
def leaves (object : Option String) (members : Fields Json) : List (Spot × Json) :=
  members.flatMap (leavesOf object)

def relabel (name : String) (pair : String × String) : String :=
  if name = pair.1 then pair.2 else name

def Nesting.spot (n : Nesting) (name : String) : Spot :=
  if name ∈ n.arguments then .inside n.object name else .member name

/-- Where the route puts an argument that has no place in the path. -/
def Route.spot (r : Route) (name : String) : Spot :=
  match r.nesting with
  | some n => n.spot (r.renames.foldl relabel name)
  | none => .member (r.renames.foldl relabel name)

theorem leavesOf_of_ne {object : Option String} {p : String × Json} (h : object ≠ some p.1) :
    leavesOf object p = [(.member p.1, p.2)] := by
  obtain ⟨name, v⟩ := p
  cases v with
  | obj inner => exact if_neg h
  | _ => rfl

/-- Without the nesting object each member is a value of its own. -/
theorem leaves_of_absent {object : Option String} {members : Fields Json}
    (h : ∀ name ∈ members.names, object ≠ some name) :
    leaves object members = members.map fun p => (.member p.1, p.2) := by
  unfold leaves
  rw [List.map_eq_flatMap]
  refine List.flatMap_congr fun p hp => ?_
  exact leavesOf_of_ne (h p.1 (List.mem_map_of_mem hp))

/-! ## The path takes its arguments -/

theorem fillPath_left {r : Route} {arguments left : Fields Json} {segments : List String}
    (hsorted : arguments.Sorted) (h : fillPath r.path arguments = .ok (segments, left)) :
    left = arguments.filter fun p => p.1 ∉ r.places := by
  have htaken : left = r.places.foldl (fun left n => left.erase n) arguments := by
    obtain ⟨method, path, renames, nesting⟩ := r
    clear hsorted
    induction path generalizing arguments left segments with
    | nil => exact (Prod.mk.inj (Except.ok.inj h)).2.symm
    | cons segment rest ih =>
      cases segment with
      | literal text =>
        obtain ⟨⟨more, left'⟩, hmore, hok⟩ := bind_eq_ok.mp h
        obtain ⟨-, rfl⟩ := Prod.mk.inj (Except.ok.inj hok)
        exact ih hmore
      | argument name =>
        obtain ⟨s, -, h⟩ := bind_eq_ok.mp h
        obtain ⟨⟨more, left'⟩, hmore, hok⟩ := bind_eq_ok.mp h
        obtain ⟨-, rfl⟩ := Prod.mk.inj (Except.ok.inj hok)
        exact ih hmore
  rw [htaken, Fields.foldl_erase_eq_filter hsorted]

/-! ## Renaming -/

/-- A new label does not drive anything out. -/
theorem rename_perm {arguments : Fields Json} (hsorted : arguments.Sorted)
    {pair : String × String} (hnew : pair.2 ∉ arguments.names) :
    (rename arguments pair).Perm (arguments.map fun p => (relabel p.1 pair, p.2)) := by
  have hothers : ∀ fields : Fields Json, pair.1 ∉ fields.names →
      fields.map (fun p => (relabel p.1 pair, p.2)) = fields := by
    intro fields hout
    have hsame : ∀ p ∈ fields, (relabel p.1 pair, p.2) = id p := by
      intro p hp
      have hne : p.1 ≠ pair.1 := fun heq => hout (List.mem_map.mpr ⟨p, hp, heq⟩)
      rw [relabel, if_neg hne]
      rfl
    rw [List.map_congr_left hsame, List.map_id]
  unfold rename
  cases hget : arguments.get? pair.1 with
  | none => rw [hothers arguments (Fields.get?_eq_none_iff.mp hget)]
  | some v =>
    have hgone := Fields.get?_erase_self hsorted pair.1
    have hfresh : (arguments.erase pair.1).get? pair.2 = none := by
      rw [Fields.get?_eq_none_iff]
      intro hmem
      obtain ⟨p, hp, hname⟩ := List.mem_map.mp hmem
      exact hnew (List.mem_map.mpr ⟨p, Fields.mem_of_mem_erase hp, hname⟩)
    have hsplit := (Fields.perm_erase hget).map fun p => (relabel p.1 pair, p.2)
    rw [List.map_cons, hothers _ (Fields.get?_eq_none_iff.mp hgone)] at hsplit
    simp only [relabel, ↓reduceIte] at hsplit
    exact (Fields.insert_perm hfresh v).trans hsplit.symm

theorem foldl_relabel_cases (renames : List (String × String)) (name : String) :
    renames.foldl relabel name = name ∨ renames.foldl relabel name ∈ renames.map (·.2) := by
  induction renames generalizing name with
  | nil => exact Or.inl rfl
  | cons pair rest ih =>
    rw [List.foldl_cons, List.map_cons]
    rcases ih (relabel name pair) with hsame | hlater
    · rw [hsame]
      unfold relabel
      split
      · exact Or.inr (List.mem_cons_self ..)
      · exact Or.inl rfl
    · exact Or.inr (List.mem_cons_of_mem _ hlater)

theorem rename_sorted {arguments : Fields Json} (hsorted : arguments.Sorted)
    (pair : String × String) : Fields.Sorted (rename arguments pair) := by
  unfold rename
  cases arguments.get? pair.1 with
  | none => exact hsorted
  | some v => exact (hsorted.erase pair.1).insert pair.2 v

/-! ## Nesting -/

/-- The members of the object: the arguments that it asks for and that are given. -/
def Nesting.inner (n : Nesting) (arguments : Fields Json) : Fields Json :=
  Fields.ofList <| n.arguments.filterMap fun name => (arguments.get? name).map fun v => (name, v)

section

variable {n : Nesting} {arguments : Fields Json} (hsorted : arguments.Sorted)
include hsorted

theorem nest_eq :
    nest n arguments =
      if (n.inner arguments).isEmpty then arguments.filter fun p => p.1 ∉ n.arguments
      else Fields.insert (arguments.filter fun p => p.1 ∉ n.arguments) n.object
        (.obj (n.inner arguments)) := by
  rw [← Fields.foldl_erase_eq_filter hsorted]
  rfl

theorem inner_perm (hdistinct : n.arguments.Nodup) :
    (n.inner arguments).Perm (arguments.filter fun p => p.1 ∈ n.arguments) := by
  have hfound := Fields.filterMap_get?_perm hsorted hdistinct
  have hkept : (Fields.names (arguments.filter fun p => p.1 ∈ n.arguments)).Nodup :=
    (hsorted.filter _).names_nodup
  have hnames := (hfound.map Prod.fst).nodup_iff.mpr hkept
  exact (Fields.ofList_perm hnames).trans hfound

theorem nest_sorted : Fields.Sorted (nest n arguments) := by
  rw [nest_eq hsorted]
  split
  · exact hsorted.filter _
  · exact (hsorted.filter _).insert _ _

theorem inner_isEmpty (hdistinct : n.arguments.Nodup) :
    (n.inner arguments).isEmpty = false ↔ ∃ name ∈ arguments.names, name ∈ n.arguments := by
  have hinner := inner_perm hsorted hdistinct
  rw [List.isEmpty_eq_false_iff_exists_mem]
  constructor
  · rintro ⟨p, hp⟩
    obtain ⟨hmem, hname⟩ := List.mem_filter.mp (hinner.mem_iff.mp hp)
    exact ⟨p.1, List.mem_map_of_mem hmem, of_decide_eq_true hname⟩
  · rintro ⟨name, hmem, hname⟩
    obtain ⟨p, hp, rfl⟩ := List.mem_map.mp hmem
    exact ⟨p, hinner.mem_iff.mpr (List.mem_filter.mpr ⟨hp, decide_eq_true hname⟩)⟩

variable (hdistinct : n.arguments.Nodup) (hnew : n.object ∉ arguments.names)

omit hsorted in
include hnew in
theorem object_not_mem_filter (keep : String × Json → Bool) :
    n.object ∉ Fields.names (arguments.filter keep) := by
  intro hmem
  obtain ⟨p, hp, hname⟩ := List.mem_map.mp hmem
  exact hnew (List.mem_map.mpr ⟨p, (List.mem_filter.mp hp).1, hname⟩)

include hdistinct hnew

/-- The object is there if and only if an argument goes into it. -/
theorem nest_contains :
    (nest n arguments).contains n.object = true ↔ ∃ name ∈ arguments.names, name ∈ n.arguments := by
  rw [← inner_isEmpty hsorted hdistinct, nest_eq hsorted]
  unfold Fields.contains
  cases (n.inner arguments).isEmpty with
  | true => simp [Fields.get?_eq_none_iff.mpr (object_not_mem_filter hnew _)]
  | false => simp [Fields.get?_insert]

/-- An object of its own for some of the arguments keeps all of them. -/
theorem leaves_nest :
    (leaves (some n.object) (nest n arguments)).Perm
      (arguments.map fun p => (n.spot p.1, p.2)) := by
  have hinner := inner_perm hsorted hdistinct
  have habsent := object_not_mem_filter hnew fun p => decide (p.1 ∉ n.arguments)
  have houter : leaves (some n.object) (arguments.filter fun p => p.1 ∉ n.arguments) =
      (arguments.filter fun p => p.1 ∉ n.arguments).map fun p => (n.spot p.1, p.2) := by
    have hothers : ∀ name ∈ Fields.names (arguments.filter fun p => p.1 ∉ n.arguments),
        some n.object ≠ some name := by
      rintro name hname heq
      obtain rfl := Option.some.inj heq
      exact habsent hname
    rw [leaves_of_absent hothers]
    refine List.map_congr_left fun p hp => ?_
    have hout : p.1 ∉ n.arguments := of_decide_eq_true (List.mem_filter.mp hp).2
    rw [Nesting.spot, if_neg hout]
  have hinside : ((n.inner arguments).map fun p => (Spot.inside n.object p.1, p.2)).Perm
      ((arguments.filter fun p => p.1 ∈ n.arguments).map fun p => (n.spot p.1, p.2)) := by
    refine (hinner.map _).trans (.of_eq (List.map_congr_left fun p hp => ?_))
    have hin : p.1 ∈ n.arguments := of_decide_eq_true (List.mem_filter.mp hp).2
    rw [Nesting.spot, if_pos hin]
  have hall : (((n.inner arguments).map fun p => (Spot.inside n.object p.1, p.2)) ++
      leaves (some n.object) (arguments.filter fun p => p.1 ∉ n.arguments)).Perm
        (arguments.map fun p => (n.spot p.1, p.2)) := by
    rw [houter]
    refine (hinside.append_right _).trans ?_
    rw [← List.map_append]
    refine List.Perm.map _ ?_
    have hsplit := List.filter_append_perm (fun p : String × Json => decide (p.1 ∈ n.arguments))
      arguments
    simpa only [decide_not] using hsplit
  refine .trans ?_ hall
  rw [nest_eq hsorted]
  cases hempty : (n.inner arguments).isEmpty with
  | true =>
    rw [List.isEmpty_iff.mp hempty]
    exact .refl _
  | false =>
    have hone := Fields.insert_perm (Fields.get?_eq_none_iff.mpr habsent)
      (Json.obj (n.inner arguments))
    refine (hone.flatMap fun _ _ => .refl _).trans (.of_eq ?_)
    simp only [List.flatMap_cons, leavesOf, ↓reduceIte]
    rfl

end

/-! ## Bodies -/

/-- Among arguments of these names the route has room for what it renames and nests. -/
def Route.Roomy (r : Route) (names : List String) : Prop :=
  r.renames.length ≤ 1 ∧ (∀ pair ∈ r.renames, pair.2 ∉ names) ∧
    ∀ n ∈ r.nesting, n.arguments.Nodup ∧ n.object ∉ names ∧ n.object ∉ r.renames.map (·.2)

theorem Route.Roomy.mono {r : Route} {names names' : List String} (h : r.Roomy names')
    (hsub : ∀ name ∈ names, name ∈ names') : r.Roomy names := by
  obtain ⟨hone, hrenames, hnesting⟩ := h
  refine ⟨hone, fun pair hpair hmem => hrenames pair hpair (hsub _ hmem), fun n hn => ?_⟩
  obtain ⟨hdistinct, hobject, hlabels⟩ := hnesting n hn
  exact ⟨hdistinct, fun hmem => hobject (hsub _ hmem), hlabels⟩

section

variable {r : Route} {arguments : Fields Json} (hsorted : arguments.Sorted)
  (hroomy : r.Roomy arguments.names)
include hsorted hroomy

/-- At most one argument is given another label. -/
theorem renamed_perm :
    Fields.Sorted (r.renames.foldl rename arguments) ∧
      (r.renames.foldl rename arguments).Perm
        (arguments.map fun p => (r.renames.foldl relabel p.1, p.2)) := by
  obtain ⟨hone, hrenames, -⟩ := hroomy
  generalize r.renames = renames at hone hrenames ⊢
  match renames with
  | [] => exact ⟨hsorted, .of_eq (List.map_id _).symm⟩
  | [pair] =>
    have hnew := hrenames pair (List.mem_singleton.mpr rfl)
    exact ⟨rename_sorted hsorted pair, rename_perm hsorted hnew⟩
  | _ :: _ :: _ => simp at hone

theorem renamed_object {n : Nesting} (hn : r.nesting = some n) :
    n.object ∉ Fields.names (r.renames.foldl rename arguments) := by
  obtain ⟨-, hperm⟩ := renamed_perm hsorted hroomy
  obtain ⟨-, hobject, hlabels⟩ := hroomy.2.2 n hn
  intro hmem
  obtain ⟨p, hp, hname⟩ := List.mem_map.mp hmem
  obtain ⟨q, hq, rfl⟩ := List.mem_map.mp (hperm.mem_iff.mp hp)
  have hname : r.renames.foldl relabel q.1 = n.object := hname
  rcases foldl_relabel_cases r.renames q.1 with hsame | hlabel
  · rw [hsame] at hname
    exact hobject (List.mem_map.mpr ⟨q, hq, hname⟩)
  · rw [hname] at hlabel
    exact hlabels hlabel

/-- A body holds each argument once, at the spot that the route has for it. -/
theorem leaves_members :
    Fields.Sorted (r.members arguments) ∧
      (leaves (r.nesting.map (·.object)) (r.members arguments)).Perm
        (arguments.map fun p => (r.spot p.1, p.2)) := by
  obtain ⟨hrenamed, hperm⟩ := renamed_perm hsorted hroomy
  unfold Route.members Route.spot
  cases hn : r.nesting with
  | none =>
    refine ⟨hrenamed, ?_⟩
    have hplain : ∀ members : Fields Json, leaves none members = _ := fun members =>
      leaves_of_absent fun _ _ => nofun
    exact hplain _ ▸ (hperm.map _).trans (.of_eq (List.map_map ..))
  | some n =>
    obtain ⟨hdistinct, -, -⟩ := hroomy.2.2 n hn
    have hnew := renamed_object hsorted hroomy hn
    exact ⟨nest_sorted hrenamed,
      (leaves_nest hrenamed hdistinct hnew).trans ((hperm.map _).trans (.of_eq (List.map_map ..)))⟩

/-- The nesting object is there if and only if an argument goes into it. -/
theorem members_contains {n : Nesting} (hn : r.nesting = some n) :
    (r.members arguments).contains n.object = true ↔
      ∃ name ∈ arguments.names, ∃ label, r.spot name = .inside n.object label := by
  obtain ⟨hrenamed, hperm⟩ := renamed_perm hsorted hroomy
  obtain ⟨hdistinct, -, -⟩ := hroomy.2.2 n hn
  have hnew := renamed_object hsorted hroomy hn
  simp only [Route.members, Route.spot, hn]
  rw [nest_contains hrenamed hdistinct hnew]
  constructor
  · rintro ⟨label, hlabel, hin⟩
    obtain ⟨p, hp, rfl⟩ := List.mem_map.mp hlabel
    obtain ⟨q, hq, rfl⟩ := List.mem_map.mp (hperm.mem_iff.mp hp)
    exact ⟨q.1, List.mem_map_of_mem hq, _, if_pos hin⟩
  · rintro ⟨name, hname, label, hspot⟩
    obtain ⟨q, hq, rfl⟩ := List.mem_map.mp hname
    have hp := hperm.mem_iff.mpr (List.mem_map_of_mem hq)
    refine ⟨_, List.mem_map_of_mem hp, ?_⟩
    unfold Nesting.spot at hspot
    split at hspot
    · rename_i hin
      exact hin
    · contradiction

end

/-! ## Requests -/

/-- What is sent for an argument: the grants of a new access key in their normal form, or nothing if
there are none, and any other value as it is. -/
def sentValue (operation : String) (call : ToolCall) (p : String × Json) : Option Json :=
  if operation = "create_access_key" ∧ p.1 = Grant.argumentName then
    match Grant.ofCall call with
    | .ok (g :: grants) => some (.arr ((g :: grants).map (·.toJson)))
    | _ => none
  else some p.2

/-- The arguments as they are sent. -/
def sentArguments (operation : String) (call : ToolCall) : Fields Json :=
  call.arguments.filterMap fun p => (sentValue operation call p).map fun v => (p.1, v)

theorem filterMap_sentValue {operation : String} {call : ToolCall} {fields : Fields Json}
    (h : operation ≠ "create_access_key" ∨ Grant.argumentName ∉ fields.names) :
    (fields.filterMap fun p => (sentValue operation call p).map fun v => (p.1, v)) = fields := by
  have hsame : ∀ p ∈ fields, (sentValue operation call p).map (fun v => (p.1, v)) = some p := by
    intro p hp
    have hother : ¬ (operation = "create_access_key" ∧ p.1 = Grant.argumentName) := by
      rintro ⟨hkey, hname⟩
      rcases h with hother | habsent
      · exact hother hkey
      · exact habsent (List.mem_map.mpr ⟨p, hp, hname⟩)
    rw [sentValue, if_neg hother]
    rfl
  rw [List.filterMap_congr hsame, List.filterMap_some]

theorem normalizeGrants_perm {call : ToolCall} (hsorted : call.arguments.Sorted)
    {arguments : Fields Json} (h : normalizeGrants call = .ok arguments) :
    arguments.Sorted ∧ arguments.Perm (sentArguments "create_access_key" call) := by
  have habsent : Grant.argumentName ∉ (call.arguments.erase Grant.argumentName).names :=
    Fields.get?_eq_none_iff.mp (Fields.get?_erase_self hsorted _)
  have hothers : ((call.arguments.erase Grant.argumentName).filterMap fun p =>
      (sentValue "create_access_key" call p).map fun v => (p.1, v)) =
        call.arguments.erase Grant.argumentName := filterMap_sentValue (Or.inr habsent)
  unfold normalizeGrants at h
  unfold sentArguments
  cases hget : call.arguments.get? Grant.argumentName with
  | none =>
    rw [if_pos (by simp [Fields.contains, hget])] at h
    obtain rfl := Except.ok.inj h
    rw [filterMap_sentValue (Or.inr (Fields.get?_eq_none_iff.mp hget))]
    exact ⟨hsorted, .refl _⟩
  | some v =>
    rw [if_neg (by simp [Fields.contains, hget])] at h
    have hsplit := (Fields.perm_erase hget).filterMap fun p =>
      (sentValue "create_access_key" call p).map fun v => (p.1, v)
    cases hgrants : Grant.ofCall call with
    | error e => simp [hgrants] at h
    | ok grants =>
      cases grants with
      | nil =>
        have hnone : sentValue "create_access_key" call (Grant.argumentName, v) = none := by
          simp [sentValue, hgrants]
        rw [hgrants] at h
        obtain rfl := Except.ok.inj h
        rw [List.filterMap_cons_none (by rw [hnone]; rfl), hothers] at hsplit
        exact ⟨hsorted.erase _, hsplit.symm⟩
      | cons g rest =>
        have hlist : sentValue "create_access_key" call (Grant.argumentName, v) =
            some (.arr ((g :: rest).map (·.toJson))) := by
          simp [sentValue, hgrants]
        rw [hgrants] at h
        obtain rfl := Except.ok.inj h
        rw [List.filterMap_cons_some (by rw [hlist]; rfl), hothers] at hsplit
        exact ⟨hsorted.insert _ _,
          (Fields.insert_perm_erase hsorted Grant.argumentName _).trans hsplit.symm⟩

/-- What a prepared request makes of the arguments: those with a place fill the path, and of the
others each is one value of the body, if there is a body. -/
theorem prepare_body {operation : String} {route : Route} (hroute : routeOf? operation = some route)
    {call : ToolCall} (hsorted : call.arguments.Sorted) {prepared : Prepared}
    (h : prepare operation call = .ok prepared) :
    prepared.method = route.method ∧
      (route.method.hasBody = false → prepared.body = none) ∧
      ∃ left : Fields Json, left.Sorted ∧
        left.Perm ((sentArguments operation call).filter fun p => p.1 ∉ route.places) ∧
        (route.method.hasBody = true → prepared.body = some (.obj (route.members left))) := by
  have hstart : ∃ arguments : Fields Json, arguments.Sorted ∧
      arguments.Perm (sentArguments operation call) ∧
      route.prepare arguments = .ok prepared := by
    unfold prepare at h
    simp only [hroute] at h
    split at h
    · rename_i hkey
      subst hkey
      obtain ⟨arguments, harguments, hprepare⟩ := bind_eq_ok.mp h
      obtain ⟨hargs, hperm⟩ := normalizeGrants_perm hsorted harguments
      exact ⟨arguments, hargs, hperm, hprepare⟩
    · rename_i hkey
      have hsame : sentArguments operation call = call.arguments :=
        filterMap_sentValue (Or.inl hkey)
      exact ⟨call.arguments, hsorted, .of_eq hsame.symm, h⟩
  obtain ⟨arguments, hargs, hperm, hprepare⟩ := hstart
  obtain ⟨⟨segments, left⟩, hfill, hok⟩ := bind_eq_ok.mp hprepare
  obtain rfl := Except.ok.inj hok
  obtain rfl := fillPath_left hargs hfill
  exact ⟨rfl, fun hnone => if_neg (by simp [hnone]), _, hargs.filter _, hperm.filter _,
    fun hbody => if_pos hbody⟩

end CloudGate.Request
