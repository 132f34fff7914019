import CloudGate.Proofs.Request.Body
import CloudGate.Proofs.Request.Grants

/-!
Every argument of an admitted call has one destination, and every value of a request has one origin.

* `tools_routed`: the routes have room for the parameters of the tools, and the spots of the table.
* `exists_prepared`: an admitted call has its request.
* `delivered`: each argument fills its place in the path, or is one value of the body, and nothing
  else is in the body.
-/

namespace CloudGate.Catalog

open Request

/-! ## The table of spots -/

def firewallOperations : List String := ["create_firewall", "update_firewall"]

def policyNames : List String := ["inbound_policy", "outbound_policy"]

/-- The spot of an argument in a body: under its own name, but for the instance of an attached
volume and the policies of a firewall. -/
def spotOf (operation name : String) : Spot :=
  if operation = "attach_volume" ∧ name = "instance_id" then .member "linode_id"
  else if operation ∈ firewallOperations ∧ name ∈ policyNames then .inside "rules" name
  else .member name

/-- The one object that stands in a body for the sake of its members. -/
def objectOf (operation : String) : Option String :=
  if operation ∈ firewallOperations then some "rules" else none

theorem spotOf_label_ne_confirm {operation name : String} (h : name ≠ Gate.confirmName) :
    (spotOf operation name).label ≠ Gate.confirmName := by
  unfold spotOf
  split
  · exact fun hlabel => absurd hlabel (by decide)
  · split
    · exact h
    · exact h

theorem policyNames_plain :
    ∀ name ∈ policyNames, name ≠ Grant.argumentName ∧ name ≠ Gate.confirmName := by
  decide

theorem spotOf_eq_inside {operation name object label : String}
    (h : spotOf operation name = .inside object label) : name ∈ policyNames := by
  unfold spotOf at h
  split at h
  · exact nomatch h
  · split at h
    · rename_i hpolicy
      exact hpolicy.2
    · exact nomatch h

theorem spotOf_of_policy {operation name : String} (hoperation : operation ∈ firewallOperations)
    (hname : name ∈ policyNames) : spotOf operation name = .inside "rules" name := by
  have hother : ¬ (operation = "attach_volume" ∧ name = "instance_id") := by
    rintro ⟨rfl, -⟩
    exact absurd hoperation (by decide)
  rw [spotOf, if_neg hother, if_pos ⟨hoperation, hname⟩]

/-- The route of a tool fits its parameters. -/
structure Routed (t : Tool) (route : Route) : Prop where
  roomy : route.Roomy (t.parameters.map (·.name))
  object : route.nesting.map (·.object) = objectOf t.name
  spots : ∀ p ∈ t.parameters, route.spot p.name = spotOf t.name p.name
  apart : ∀ p ∈ t.parameters, ∀ q ∈ t.parameters,
    spotOf t.name p.name = spotOf t.name q.name → p.name = q.name
  lists : t.isList = true → route.method.hasBody = false
  placed : route.method.hasBody = false → t.isList = false →
    ∀ p ∈ t.parameters, p.name = Gate.confirmName ∨ p.name ∈ route.places
  unruly : ∀ p ∈ t.parameters, spotOf t.name p.name ≠ .member "rules"
  policies : ∀ p ∈ t.parameters, p.name ∈ policyNames →
    t.name ∈ firewallOperations ∧ p.name ∉ route.places

theorem tools_routed : ∀ t ∈ tools, ∀ route ∈ routeOf? t.name, Routed t route := by
  have hroomy : ∀ t ∈ tools, ∀ route ∈ routeOf? t.name,
      route.Roomy (t.parameters.map (·.name)) := by
    unfold Route.Roomy
    decide
  have hobject : ∀ t ∈ tools, ∀ route ∈ routeOf? t.name,
      route.nesting.map (·.object) = objectOf t.name := by decide
  have hspots : ∀ t ∈ tools, ∀ route ∈ routeOf? t.name, ∀ p ∈ t.parameters,
      route.spot p.name = spotOf t.name p.name := by decide
  have hapart : ∀ t ∈ tools, ∀ p ∈ t.parameters, ∀ q ∈ t.parameters,
      spotOf t.name p.name = spotOf t.name q.name → p.name = q.name := by decide
  have hlists : ∀ t ∈ tools, ∀ route ∈ routeOf? t.name,
      t.isList = true → route.method.hasBody = false := by decide
  have hplaced : ∀ t ∈ tools, ∀ route ∈ routeOf? t.name, route.method.hasBody = false →
      t.isList = false → ∀ p ∈ t.parameters,
        p.name = Gate.confirmName ∨ p.name ∈ route.places := by decide
  have hunruly : ∀ t ∈ tools, ∀ p ∈ t.parameters, spotOf t.name p.name ≠ .member "rules" := by
    decide
  have hpolicies : ∀ t ∈ tools, ∀ route ∈ routeOf? t.name, ∀ p ∈ t.parameters,
      p.name ∈ policyNames → t.name ∈ firewallOperations ∧ p.name ∉ route.places := by decide
  intro t ht route hroute
  exact
    { roomy := hroomy t ht route hroute
      object := hobject t ht route hroute
      spots := hspots t ht route hroute
      apart := hapart t ht
      lists := hlists t ht route hroute
      placed := hplaced t ht route hroute
      unruly := hunruly t ht
      policies := hpolicies t ht route hroute }

/-! ## Requests of admitted calls -/

/-- Leaving out the consent changes nothing about the other arguments. -/
theorem sentArguments_request (t : Tool) {call : ToolCall} (hsorted : call.arguments.Sorted)
    (operation : String) :
    sentArguments operation (Invocation.request t call) =
      (sentArguments operation call).filter fun p => p.1 ≠ Gate.confirmName := by
  have hne : Grant.argumentName ≠ Gate.confirmName := by decide
  have hgrants : Grant.ofCall (Invocation.request t call) = Grant.ofCall call := by
    simp only [Grant.ofCall, Invocation.request_get?_of_ne t call hne]
  have hvalue : ∀ p, sentValue operation (Invocation.request t call) p =
      sentValue operation call p := by
    intro p
    simp only [sentValue, hgrants]
  unfold sentArguments
  rw [List.filter_filterMap, Invocation.request_eq_filter t hsorted, List.filterMap_filter]
  refine List.filterMap_congr fun p _ => ?_
  rw [← Invocation.request_eq_filter t hsorted, hvalue]
  by_cases hconfirm : p.1 = Gate.confirmName
  · cases sentValue operation call p <;> simp [hconfirm, Option.filter]
  · cases sentValue operation call p <;> simp [hconfirm, Option.filter]

theorem name_of_mem_sentArguments {operation : String} {call : ToolCall} {p : String × Json}
    (h : p ∈ sentArguments operation call) : p.1 ∈ call.arguments.names := by
  obtain ⟨q, hq, hsent⟩ := List.mem_filterMap.mp h
  obtain ⟨v, -, rfl⟩ := Option.map_eq_some_iff.mp hsent
  exact List.mem_map.mpr ⟨q, hq, rfl⟩

/-- Only the grants may be left out, so a policy is sent if it is given. -/
theorem mem_sentArguments (operation : String) {call : ToolCall} {name : String} {v : Json}
    (hname : name ≠ Grant.argumentName) (h : (name, v) ∈ call.arguments) :
    (name, v) ∈ sentArguments operation call := by
  have hother : ¬ (operation = "create_access_key" ∧ name = Grant.argumentName) :=
    fun hboth => hname hboth.2
  exact List.mem_filterMap.mpr ⟨(name, v), h, by simp [sentValue, hother]⟩

/-- The places are filled with what was checked, and grants that were checked can be read again. -/
theorem exists_prepared {t : Tool} (ht : t ∈ registry.all) {call : ToolCall}
    (hpass : Invocation.screen t call = .ok ()) {route : Route}
    (hroute : routeOf? t.name = some route) :
    ∃ prepared, prepare t.name (Invocation.request t call) = .ok prepared := by
  have hmem := (mem_registry_iff t).mp ht
  have hserves : ∀ name, .argument name ∈ route.path → Serves t name :=
    fun name hname => (tools_served t hmem).2 route hroute name (mem_places hname)
  rcases prepare_eq hroute (Invocation.request t call) with
    ⟨hkey, e, hgrants, -⟩ | ⟨arguments, hprepare, hagree⟩
  · obtain ⟨-, -, hrules⟩ := (Invocation.screen_eq_ok t call).mp hpass
    have hread := (createAccessKey_enforces t hmem hkey).holds hrules
    rw [← bucketAccess_request t call] at hread
    obtain ⟨arguments, hok⟩ := normalizeGrants_of_bucketAccess hread
    rw [hok] at hgrants
    contradiction
  · have hagree' : ∀ name, .argument name ∈ route.path → arguments.get? name = call.get? name := by
      intro name hname
      have hne := ne_confirm_of_serves (hserves name hname)
      rw [hagree name hname, Invocation.request_get?_of_ne t call hne]
    have hproper := routes_proper _ (mem_routes_of_routeOf? hroute)
    obtain ⟨segments, left, hfill, -⟩ := fillPath_of_places hproper.1 hagree'
      fun name hname => verbatim_of_serves ht hpass (hserves name hname)
    exact ⟨_, hprepare.trans (bind_eq_ok.mpr ⟨_, hfill, rfl⟩)⟩

/-! ## Destinations -/

/-- What a body has to hold: all arguments but the consent and those in the path, each at its
spot. -/
def deliveries (operation : String) (places : List String) (call : ToolCall) : List (Spot × Json) :=
  ((sentArguments operation call).filter fun p => p.1 ≠ Gate.confirmName ∧ p.1 ∉ places).map
    fun p => (spotOf operation p.1, p.2)

/-- The body holds just these values, each at a spot of its own. -/
structure Delivers (t : Tool) (call : ToolCall) (places : List String) (members : Fields Json) :
    Prop where
  sorted : members.Sorted
  values : (leaves (objectOf t.name) members).Perm (deliveries t.name places call)
  apart : ((leaves (objectOf t.name) members).map (·.1)).Nodup
  consent : ∀ p ∈ leaves (objectOf t.name) members, p.1.label ≠ Gate.confirmName
  rules : members.contains "rules" = true ↔
    ∃ name ∈ policyNames, call.arguments.contains name = true

/-- Where the arguments of a call are in its request. -/
structure Delivered (t : Tool) (call : ToolCall) (route : Route) (prepared : Prepared) : Prop where
  method : prepared.method = route.method
  /-- Every place of the path is filled with its own argument. -/
  path : ∃ segments, prepared.path = joinPath segments ∧
    List.Forall₂ (fun segment s => segment.Fills (Invocation.request t call) s.toList) route.path
      segments
  places : route.path.Nodup ∧ Gate.confirmName ∉ route.places
  /-- Without a body only lists have arguments that are not sent. -/
  bodiless : route.method.hasBody = false → prepared.body = none ∧
    ∀ name ∈ call.arguments.names,
      name = Gate.confirmName ∨ name ∈ route.places ∨ t.isList = true
  body : route.method.hasBody = true → t.isList = false ∧
    ∃ members, prepared.body = some (.obj members) ∧ Delivers t call route.places members

/-- The arguments of a tool that lists nothing are its parameters. -/
theorem exists_parameter {t : Tool} {call : ToolCall} (hpass : Invocation.screen t call = .ok ())
    (hlist : t.isList = false) {name : String} (hname : name ∈ call.arguments.names) :
    ∃ p ∈ t.parameters, p.name = name := by
  obtain ⟨-, hshape, -⟩ := (Invocation.screen_eq_ok t call).mp hpass
  have hparameter := hasParameter_of_checkShape hshape hlist hname
  obtain ⟨p, hp, heq⟩ := List.any_eq_true.mp hparameter
  exact ⟨p, hp, by simpa using heq⟩

section

variable {t : Tool} {call : ToolCall} {route : Route} {left : Fields Json}
  (hparameters : ∀ name ∈ call.arguments.names, ∃ p ∈ t.parameters, p.name = name)
  (hleft : left.Perm ((sentArguments t.name call).filter fun p =>
    p.1 ≠ Gate.confirmName ∧ p.1 ∉ route.places))
include hparameters hleft

theorem left_parameter {name : String} (hname : name ∈ left.names) :
    ∃ p ∈ t.parameters, p.name = name := by
  obtain ⟨p, hp, rfl⟩ := List.mem_map.mp hname
  exact hparameters _ (name_of_mem_sentArguments (List.mem_filter.mp (hleft.mem_iff.mp hp)).1)

variable (hrouted : Routed t route)
include hrouted

theorem left_roomy : route.Roomy left.names := by
  refine hrouted.roomy.mono fun name hname => ?_
  obtain ⟨p, hp, rfl⟩ := left_parameter hparameters hleft hname
  exact List.mem_map_of_mem hp

/-- The spots of the route are those of the table. -/
theorem left_spot {name : String} (hname : name ∈ left.names) :
    route.spot name = spotOf t.name name := by
  obtain ⟨p, hp, rfl⟩ := left_parameter hparameters hleft hname
  exact hrouted.spots p hp

variable (hsorted : left.Sorted)
include hsorted

theorem left_values :
    (leaves (objectOf t.name) (route.members left)).Perm
      (left.map fun p => (spotOf t.name p.1, p.2)) := by
  have hvalues := (leaves_members hsorted (left_roomy hparameters hleft hrouted)).2
  rw [hrouted.object] at hvalues
  refine hvalues.trans (.of_eq (List.map_congr_left fun p hp => ?_))
  rw [left_spot hparameters hleft hrouted (List.mem_map_of_mem hp)]

/-- Arguments of different names go to different spots. -/
theorem left_apart : ((leaves (objectOf t.name) (route.members left)).map (·.1)).Nodup := by
  have hvalues := left_values hparameters hleft hrouted hsorted
  have hspots : (left.names.map fun name => spotOf t.name name).Nodup := by
    refine List.Nodup.map_on (fun name hname name' hname' heq => ?_) hsorted.names_nodup
    obtain ⟨p, hp, rfl⟩ := left_parameter hparameters hleft hname
    obtain ⟨q, hq, rfl⟩ := left_parameter hparameters hleft hname'
    exact hrouted.apart p hp q hq heq
  rw [(hvalues.map Prod.fst).nodup_iff, List.map_map]
  rw [Fields.names, List.map_map] at hspots
  exact hspots

/-- Without policies there is no object for them, whatever the arguments. -/
theorem left_unruly (hnesting : route.nesting = none) :
    (route.members left).contains "rules" = false := by
  rw [← Bool.not_eq_true]
  intro hrules
  obtain ⟨v, hv⟩ := Option.isSome_iff_exists.mp hrules
  have hvalues := left_values hparameters hleft hrouted hsorted
  rw [← hrouted.object, hnesting] at hvalues
  have hleaf : (Spot.member "rules", v) ∈ leaves none (route.members left) := by
    have hone : leavesOf none ("rules", v) = [(.member "rules", v)] :=
      leavesOf_of_ne (Option.some_ne_none _).symm
    refine List.mem_flatMap.mpr ⟨("rules", v), Fields.mem_of_get? hv, ?_⟩
    rw [hone]
    exact List.mem_singleton.mpr rfl
  obtain ⟨p, hp, heq⟩ := List.mem_map.mp (hvalues.mem_iff.mp hleaf)
  obtain ⟨q, hq, hname⟩ := left_parameter hparameters hleft (List.mem_map_of_mem hp)
  have hspot := (Prod.mk.inj heq).1
  rw [← hname] at hspot
  exact hrouted.unruly q hq hspot

theorem left_rules :
    (route.members left).contains "rules" = true ↔
      ∃ name ∈ policyNames, call.arguments.contains name = true := by
  have hobject := hrouted.object
  have hpolicy : ∀ name ∈ policyNames, call.arguments.contains name = true →
      t.name ∈ firewallOperations ∧ name ∉ route.places := by
    intro name hname hgiven
    obtain ⟨p, hp, rfl⟩ := hparameters name (Fields.contains_iff.mp hgiven)
    exact hrouted.policies p hp hname
  cases hnesting : route.nesting with
  | none =>
    rw [left_unruly hparameters hleft hrouted hsorted hnesting]
    rw [hnesting] at hobject
    refine iff_of_false Bool.false_ne_true ?_
    rintro ⟨name, hname, hgiven⟩
    rw [objectOf, if_pos (hpolicy name hname hgiven).1] at hobject
    exact nomatch hobject
  | some n =>
    rw [hnesting] at hobject
    have hfirewall : t.name ∈ firewallOperations := by
      by_contra hother
      rw [objectOf, if_neg hother] at hobject
      exact nomatch hobject
    rw [objectOf, if_pos hfirewall] at hobject
    have hrules : n.object = "rules" := Option.some.inj hobject
    have hroomy := left_roomy hparameters hleft hrouted
    rw [← hrules, members_contains hsorted hroomy hnesting]
    constructor
    · rintro ⟨name, hname, label, hspot⟩
      rw [left_spot hparameters hleft hrouted hname] at hspot
      obtain ⟨p, hp, rfl⟩ := List.mem_map.mp hname
      have hsent := (List.mem_filter.mp (hleft.mem_iff.mp hp)).1
      exact ⟨p.1, spotOf_eq_inside hspot,
        Fields.contains_iff.mpr (name_of_mem_sentArguments hsent)⟩
    · rintro ⟨name, hname, hgiven⟩
      obtain ⟨v, hv⟩ := Option.isSome_iff_exists.mp hgiven
      obtain ⟨hgrants, hconfirm⟩ := policyNames_plain name hname
      have hsent := mem_sentArguments t.name hgrants (Fields.mem_of_get? hv)
      have hkept : (name, v) ∈ left := by
        refine hleft.mem_iff.mpr (List.mem_filter.mpr ⟨hsent, ?_⟩)
        exact decide_eq_true ⟨hconfirm, (hpolicy name hname hgiven).2⟩
      have hmem : name ∈ left.names := List.mem_map.mpr ⟨_, hkept, rfl⟩
      refine ⟨name, hmem, name, ?_⟩
      rw [left_spot hparameters hleft hrouted hmem, spotOf_of_policy hfirewall hname, hrules]

theorem delivers : Delivers t call route.places (route.members left) := by
  have hvalues := left_values hparameters hleft hrouted hsorted
  have hall : (leaves (objectOf t.name) (route.members left)).Perm
      (deliveries t.name route.places call) := hvalues.trans (hleft.map _)
  exact
    { sorted := (leaves_members hsorted (left_roomy hparameters hleft hrouted)).1
      values := hall
      apart := left_apart hparameters hleft hrouted hsorted
      consent := by
        intro p hp
        obtain ⟨q, hq, rfl⟩ := List.mem_map.mp (hall.mem_iff.mp hp)
        have hkept := of_decide_eq_true (List.mem_filter.mp hq).2
        exact spotOf_label_ne_confirm hkept.1
      rules := left_rules hparameters hleft hrouted hsorted }

end

/-- No argument of an admitted call is lost, doubled or made up on its way into the request. -/
theorem delivered {t : Tool} (ht : t ∈ registry.all) {call : ToolCall}
    (hsorted : call.arguments.Sorted) (hpass : Invocation.screen t call = .ok ()) :
    ∃ route prepared, routeOf? t.name = some route ∧
      prepare t.name (Invocation.request t call) = .ok prepared ∧
      Delivered t call route prepared := by
  have hmem := (mem_registry_iff t).mp ht
  obtain ⟨route, hroute⟩ := Option.isSome_iff_exists.mp (tools_served t hmem).1
  have hrouted := tools_routed t hmem route hroute
  obtain ⟨prepared, hprepare⟩ := exists_prepared ht hpass hroute
  obtain ⟨hmethod, hnone, left, hleftsorted, hleft, hbody⟩ :=
    prepare_body hroute (sorted_request t hsorted) hprepare
  refine ⟨route, prepared, hroute, hprepare, ?_⟩
  exact
    { method := hmethod
      path := prepare_segments hroute hprepare
      places := by
        refine ⟨(routes_proper _ (mem_routes_of_routeOf? hroute)).1, fun hconfirm => ?_⟩
        exact ne_confirm_of_serves ((tools_served t hmem).2 route hroute _ hconfirm) rfl
      bodiless := by
        intro hbodiless
        refine ⟨hnone hbodiless, fun name hname => ?_⟩
        cases hlist : t.isList with
        | true => exact Or.inr (Or.inr rfl)
        | false =>
          obtain ⟨p, hp, rfl⟩ := exists_parameter hpass hlist hname
          exact (hrouted.placed hbodiless hlist p hp).imp_right Or.inl
      body := by
        intro hhas
        have hlist : t.isList = false := by
          rw [← Bool.not_eq_true]
          intro hlist
          rw [hrouted.lists hlist] at hhas
          contradiction
        have hparameters : ∀ name ∈ call.arguments.names, ∃ p ∈ t.parameters, p.name = name :=
          fun name hname => exists_parameter hpass hlist hname
        have hkept : left.Perm ((sentArguments t.name call).filter fun p =>
            p.1 ≠ Gate.confirmName ∧ p.1 ∉ route.places) := by
          rw [sentArguments_request t hsorted, List.filter_filter] at hleft
          refine hleft.trans (.of_eq (List.filter_congr fun p _ => ?_))
          rw [Bool.decide_and, Bool.and_comm]
        exact ⟨hlist, _, hbody hhas, delivers hparameters hkept hrouted hleftsorted⟩ }

/-- One policy of a firewall is changed, and its label is given as null. -/
theorem delivered_policy :
    let t := firewallTools[2]
    let call : ToolCall :=
      ⟨"update_firewall", [("confirm", .bool true), ("firewall_id", .str " 12"),
        ("inbound_policy", .str "drop"), ("label", .null)]⟩
    let route : Route := { method := .put, path := oneFirewall, nesting := some firewallRules }
    let members : Fields Json :=
      [("label", .null), ("rules", .obj [("inbound_policy", .str "drop")])]
    let prepared : Prepared :=
      { method := .put, path := "/networking/firewalls/12", body := some (.obj members) }
    t ∈ registry.all ∧ call.arguments.Sorted ∧ Invocation.screen t call = .ok () ∧
      prepare t.name (Invocation.request t call) = .ok prepared ∧
      Delivered t call route prepared := by
  intro t call route members prepared
  have hmem : t ∈ firewallTools := List.getElem_mem _
  have ht : t ∈ registry.all := (mem_registry_iff t).mpr (by simp [tools, hmem])
  have hsorted : call.arguments.Sorted := by
    unfold Fields.Sorted
    decide +kernel
  have hpass : Invocation.screen t call = .ok () := eq_ok_of_toBool (by decide +kernel)
  have hprepare : prepare t.name (Invocation.request t call) = .ok prepared := by rfl
  have hroute : routeOf? t.name = some route := by rfl
  obtain ⟨route', prepared', hroute', hprepare', hdelivered⟩ := delivered ht hsorted hpass
  obtain rfl : route = route' := Option.some.inj (hroute.symm.trans hroute')
  obtain rfl : prepared = prepared' := Except.ok.inj (hprepare.symm.trans hprepare')
  exact ⟨ht, hsorted, hpass, hprepare, hdelivered⟩

end CloudGate.Catalog
