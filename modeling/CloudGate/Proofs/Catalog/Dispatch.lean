import CloudGate.Proofs.Catalog.Admission
import CloudGate.Proofs.Request.Path
import CloudGate.Proofs.Rule.Slug

/-!
What becomes of the calls that passed the checks: requests for exactly the resources that were
checked.

* `tools_served`: every place of a route is a parameter that the rules insist on.
* `prepare_admitted`: so every admitted call has its request, with the checked values in the path.
-/

namespace CloudGate

namespace Request

/-! ## Checked arguments fill their places -/

/-- An identifier is written as the integer that was read. -/
theorem fillArgument_of_counts {call : ToolCall} {name : String} {n : Int}
    (hname : isIdentifierName name = true) (h : call.int? name = .ok (some n)) :
    fillArgument name (call.get? name) = .ok (toString n) := by
  have hread : ∃ text, segmentText? (call.get? name) = some text ∧
      parseInt64? (Text.trimChars text.toList) = some n := by
    rcases (call.int?_eq_some name n).mp h with ⟨hget, hfits⟩ | ⟨s, hget, hparse⟩
    · exact ⟨toString n, by rw [hget]; rfl, parseInt64?_numeral hfits⟩
    · have hempty : s.isEmpty = false := by
        rw [← Bool.not_eq_true, String.isEmpty_iff]
        rintro rfl
        have hnone : parseInt64? (Text.trimChars "".toList) = none := by decide
        rw [hnone] at hparse
        contradiction
      exact ⟨s, by simp [hget, segmentText?, hempty], hparse⟩
  obtain ⟨text, htext, hparse⟩ := hread
  simp only [fillArgument, htext, hname, ↓reduceIte, hparse]

/-- A lowercase label is written as it is. -/
theorem fillArgument_of_slug {call : ToolCall} {name s : String} {least most : Nat}
    (hname : isIdentifierName name = false) (hget : call.get? name = some (.str s))
    (h : Rule.Slug (least + 1) most s) : fillArgument name (call.get? name) = .ok s := by
  rw [hget]
  exact fillArgument_slug hname (Nat.succ_le_succ (Nat.zero_le least)) h

/-- What stands in the path of a checked call: the integer that was read, or the text itself. -/
inductive Segment.Verbatim (call : ToolCall) : Segment → String → Prop
  | literal (text : String) : Verbatim call (.literal text) text
  | identifier {name : String} {n : Int} (hname : isIdentifierName name = true)
    (hn : call.int? name = .ok (some n)) (hpos : 0 < n) :
    Verbatim call (.argument name) (toString n)
  | label {name s : String} (hname : isIdentifierName name = false)
    (hget : call.get? name = some (.str s)) : Verbatim call (.argument name) s

/-- A path can be filled if each of its places can. -/
theorem fillPath_of_places {call : ToolCall} {path : List Segment} (hdistinct : path.Nodup)
    {arguments : Fields Json}
    (hagree : ∀ name, .argument name ∈ path → arguments.get? name = call.get? name)
    (h : ∀ name, .argument name ∈ path → ∃ s, fillArgument name (call.get? name) = .ok s ∧
      (Segment.argument name).Verbatim call s) :
    ∃ segments left, fillPath path arguments = .ok (segments, left) ∧
      List.Forall₂ (Segment.Verbatim call) path segments := by
  induction path generalizing arguments with
  | nil => exact ⟨[], arguments, rfl, .nil⟩
  | cons segment rest ih =>
    obtain ⟨hnew, hrest⟩ := List.nodup_cons.mp hdistinct
    have hagree' : ∀ name, .argument name ∈ rest → arguments.get? name = call.get? name :=
      fun name hname => hagree name (List.mem_cons_of_mem _ hname)
    have h' := fun name hname => h name (List.mem_cons_of_mem _ hname)
    cases segment with
    | literal text =>
      obtain ⟨segments, left, hfill, hverbatim⟩ := ih hrest hagree' h'
      exact ⟨text :: segments, left, bind_eq_ok.mpr ⟨_, hfill, rfl⟩,
        .cons (.literal text) hverbatim⟩
    | argument name =>
      obtain ⟨s, hs, hplace⟩ := h name (List.mem_cons_self ..)
      rw [← hagree name (List.mem_cons_self ..)] at hs
      obtain ⟨segments, left, hfill, hverbatim⟩ := ih hrest (agree_erase hnew hagree') h'
      exact ⟨s :: segments, left,
        bind_eq_ok.mpr ⟨s, hs, bind_eq_ok.mpr ⟨_, hfill, rfl⟩⟩, .cons hplace hverbatim⟩

/-- The names of the arguments that the path has places for. -/
def Route.places (r : Route) : List String :=
  r.path.filterMap fun
    | .literal _ => none
    | .argument name => some name

theorem mem_places {r : Route} {name : String} (h : .argument name ∈ r.path) : name ∈ r.places :=
  List.mem_filterMap.mpr ⟨.argument name, h, rfl⟩

/-- Grants that the rules have read can be read again. -/
theorem normalizeGrants_of_bucketAccess {call : ToolCall}
    (h : Operation.bucketAccess call = .ok ()) :
    ∃ arguments, normalizeGrants call = .ok arguments := by
  unfold Operation.bucketAccess at h
  unfold normalizeGrants
  split
  · exact ⟨_, rfl⟩
  · cases hgrants : Grant.ofCall call with
    | error v => simp [hgrants] at h
    | ok grants =>
      cases grants with
      | nil => exact ⟨_, rfl⟩
      | cons g rest => exact ⟨_, rfl⟩

end Request

namespace Catalog

/-! ## Routes of the catalog -/

/-- The tool has a duty that makes an argument fit for a place. -/
def Serves (t : Tool) (name : String) : Prop :=
  (Request.isIdentifierName name = true ∧ (name, Duty.identifier) ∈ dutiesOf t) ∨
    (Request.isIdentifierName name = false ∧
      ((name, Duty.region) ∈ dutiesOf t ∨ (name, Duty.bucketName) ∈ dutiesOf t))

instance (t : Tool) (name : String) : Decidable (Serves t name) :=
  inferInstanceAs (Decidable (_ ∨ _))

theorem tools_served : ∀ t ∈ tools, (Request.routeOf? t.name).isSome = true ∧
    ∀ route ∈ Request.routeOf? t.name, ∀ name ∈ route.places, Serves t name := by
  decide

/-- The one operation whose request is prepared from grants has a rule that reads them. -/
theorem createAccessKey_enforces :
    ∀ t ∈ tools, t.name = "create_access_key" → t.Enforces Operation.bucketAccess := by
  have hothers : ∀ t ∈ instanceTools ++ sshKeyTools ++ volumeTools ++ dnsTools ++ firewallTools ++
      loadBalancerTools ++ vpcTools ++ bucketTools ++ presignedTools,
      t.name ≠ "create_access_key" := by decide
  have hkeys : ∀ t ∈ accessKeyTools,
      t.name = "create_access_key" → t.Enforces Operation.bucketAccess := by
    simp only [accessKeyTools, List.forall_mem_cons]
    refine ⟨fun h => absurd h (by decide), fun _ => ?_, fun h => absurd h (by decide),
      List.forall_mem_nil _⟩
    exact ⟨Operation.createAccessKey, rfl, by simp [Operation.createAccessKey]⟩
  intro t ht hname
  simp only [tools, List.mem_append] at ht
  simp only [List.mem_append] at hothers
  rcases ht with (h | h) | h
  · exact absurd hname (hothers t (Or.inl h))
  · exact hkeys t h hname
  · exact absurd hname (hothers t (Or.inr h))

theorem verbatim_of_serves {t : Tool} (ht : t ∈ registry.all) {call : ToolCall}
    (hpass : Invocation.screen t call = .ok ()) {name : String} (h : Serves t name) :
    ∃ s, Request.fillArgument name (call.get? name) = .ok s ∧
      (Request.Segment.argument name).Verbatim call s := by
  rcases h with ⟨hname, hduty⟩ | ⟨hname, hduty | hduty⟩
  · obtain ⟨n, hn, hpos⟩ := met_of_screen ht hpass hduty
    exact ⟨toString n, Request.fillArgument_of_counts hname hn, .identifier hname hn hpos⟩
  · obtain ⟨s, hget, hslug⟩ := met_of_screen ht hpass hduty
    exact ⟨s, Request.fillArgument_of_slug hname hget hslug, .label hname hget⟩
  · obtain ⟨s, hget, hslug⟩ := met_of_screen ht hpass hduty
    exact ⟨s, Request.fillArgument_of_slug hname hget hslug, .label hname hget⟩

theorem ne_confirm_of_serves {t : Tool} {name : String} (h : Serves t name) :
    name ≠ Gate.confirmName := by
  have hduty : ∃ d, (name, d) ∈ dutiesOf t := by
    rcases h with ⟨-, hduty⟩ | ⟨-, hduty | hduty⟩
    · exact ⟨_, hduty⟩
    · exact ⟨_, hduty⟩
    · exact ⟨_, hduty⟩
  obtain ⟨d, hd⟩ := hduty
  obtain ⟨p, -, hp⟩ := List.mem_filterMap.mp hd
  obtain ⟨d', hd', heq⟩ := Option.map_eq_some_iff.mp hp
  obtain ⟨rfl, -⟩ := Prod.mk.inj heq
  exact key_ne_confirm hd'

theorem bucketAccess_request (t : Tool) (call : ToolCall) :
    Operation.bucketAccess (Invocation.request t call) = Operation.bucketAccess call := by
  have hne : Grant.argumentName ≠ Gate.confirmName := by decide
  simp only [Operation.bucketAccess, Grant.ofCall, Invocation.request_get?_of_ne t call hne]

/-- Every admitted call has its request, with the checked values in the path. -/
theorem prepare_admitted {t : Tool} (ht : t ∈ registry.all) {call : ToolCall}
    (hpass : Invocation.screen t call = .ok ()) :
    ∃ route prepared segments, Request.routeOf? t.name = some route ∧
      Request.prepare t.name (Invocation.request t call) = .ok prepared ∧
      prepared.path = Request.joinPath segments ∧
      List.Forall₂ (Request.Segment.Verbatim call) route.path segments := by
  have hmem := (mem_registry_iff t).mp ht
  obtain ⟨hsome, hserved⟩ := tools_served t hmem
  obtain ⟨route, hroute⟩ := Option.isSome_iff_exists.mp hsome
  have hplaces : ∀ name, .argument name ∈ route.path → Serves t name :=
    fun name hname => hserved route hroute name (Request.mem_places hname)
  rcases Request.prepare_eq hroute (Invocation.request t call) with
    ⟨hkey, e, hgrants, -⟩ | ⟨arguments, hprepare, hagree⟩
  · obtain ⟨-, -, hrules⟩ := (Invocation.screen_eq_ok t call).mp hpass
    have hread := (createAccessKey_enforces t hmem hkey).holds hrules
    rw [← bucketAccess_request t call] at hread
    obtain ⟨arguments, hok⟩ := Request.normalizeGrants_of_bucketAccess hread
    rw [hok] at hgrants
    contradiction
  · have hagree' : ∀ name, .argument name ∈ route.path → arguments.get? name = call.get? name := by
      intro name hname
      rw [hagree name hname,
        Invocation.request_get?_of_ne t call (ne_confirm_of_serves (hplaces name hname))]
    have hproper := Request.routes_proper _ (Request.mem_routes_of_routeOf? hroute)
    obtain ⟨segments, left, hfill, hverbatim⟩ := Request.fillPath_of_places hproper.1 hagree'
      fun name hname => verbatim_of_serves ht hpass (hplaces name hname)
    exact ⟨route, _, segments, hroute, hprepare.trans (bind_eq_ok.mpr ⟨_, hfill, rfl⟩), rfl,
      hverbatim⟩

/-- A record is changed whose identifiers come with blanks and a sign. -/
theorem prepare_admitted_record :
    let t := dnsTools[5]
    let call : ToolCall :=
      ⟨"update_domain_record",
        [("confirm", .bool true), ("domain_id", .str " +42 "), ("record_id", .int 7)]⟩
    t ∈ registry.all ∧ Invocation.screen t call = .ok () ∧
      ∃ route prepared segments, Request.routeOf? t.name = some route ∧
        Request.prepare t.name (Invocation.request t call) = .ok prepared ∧
        prepared.path = Request.joinPath segments ∧
        List.Forall₂ (Request.Segment.Verbatim call) route.path segments := by
  intro t call
  have hmem : t ∈ dnsTools := List.getElem_mem _
  have ht : t ∈ registry.all := (mem_registry_iff t).mpr (by simp [tools, hmem])
  have hpass : Invocation.screen t call = .ok () := eq_ok_of_toBool (by decide)
  exact ⟨ht, hpass, prepare_admitted ht hpass⟩

end Catalog

end CloudGate
