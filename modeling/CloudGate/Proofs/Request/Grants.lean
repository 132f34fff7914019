import CloudGate.Proofs.Catalog.Dispatch
import CloudGate.Proofs.Operation.GrantValue

/-!
The grants of a new access key on their way from the call to the request. They are read once to be
checked and once more to be sent.

* `asked_of_ofCall`: what is read is what the argument of the call denotes.
* `normalizeGrants_carries`: what is sent is the normal form of what is read.
* `prepare_grants`: so an accepted call becomes a request for the grants that were checked.
-/

namespace CloudGate

namespace Grant

/-- The grants that a call asks for, by the argument for them. A text asks for the grants that its
values denote. Where the whole text is a value, this is the list of records that denote them. -/
inductive Asked : Option Json → List Grant → Prop
  | missing : Asked none []
  | null : Asked (some .null) []
  | blank {s : String} (hblank : Text.isBlankText s = true) : Asked (some (.str s)) []
  | list {items : List Json} {grants : List Grant} (h : List.Forall₂ Denotes items grants) :
    Asked (some (.arr items)) grants
  | text {s : String} {items : List Json} {grants : List Grant}
    (hblank : Text.isBlankText s = false) (hvalues : valuesOf s = .ok items)
    (hdenote : List.Forall₂ Denotes items grants)
    (h : ∀ v, Json.parse s = .ok v → ∃ items, v = .arr items ∧ List.Forall₂ Denotes items grants) :
    Asked (some (.str s)) grants

theorem asked_of_ofCall {call : ToolCall} {grants : List Grant} (h : ofCall call = .ok grants) :
    Asked (call.get? argumentName) grants := by
  unfold ofCall at h
  cases hget : call.get? argumentName with
  | none =>
    rw [hget] at h
    obtain rfl := Except.ok.inj h
    exact .missing
  | some v =>
    rw [hget] at h
    cases v with
    | null =>
      obtain rfl := Except.ok.inj h
      exact .null
    | str s =>
      simp only [ofJson] at h
      split at h
      · rename_i hblank
        obtain rfl := Except.ok.inj h
        exact .blank hblank
      · rename_i hblank
        rw [Bool.not_eq_true] at hblank
        obtain ⟨items, hvalues, hdenote⟩ := exists_values_of_parseList h
        exact .text hblank hvalues hdenote fun v hv => denotes_of_parseList hv h
    | arr items =>
      cases hlist : Json.Decoder.list decode (.arr items) with
      | error e => simp [ofJson, hlist] at h
      | ok read =>
        simp only [ofJson, hlist, Except.ok.injEq] at h
        subst h
        exact .list ((mapM_eq_ok.mp hlist).imp fun _ _ hdecode => denotes_of_decode hdecode)
    | _ => contradiction

/-- Grants in their normal form are read as they are. -/
theorem ofCall_normal {call : ToolCall} {grants : List Grant}
    (h : call.get? argumentName = some (.arr (grants.map toJson))) : ofCall call = .ok grants := by
  have hread : (grants.map toJson).mapM decode = .ok grants := by
    rw [mapM_eq_ok, List.forall₂_map_left_iff, List.forall₂_same]
    exact fun g _ => decode_toJson g
  simp only [ofCall, h, ofJson, Json.Decoder.list, hread]

end Grant

namespace Request

/-- The members of a body hold these grants: nothing if there are none, and else a list of objects
that have the three members of a grant, and from which the same grants are read. -/
structure Carries (members : Fields Json) (grants : List Grant) : Prop where
  absent : grants = [] → members.get? Grant.argumentName = none
  normal : grants ≠ [] → members.get? Grant.argumentName =
    some (.arr (grants.map fun g => .obj [("bucket_name", .str g.bucketName),
      ("permissions", .str g.permissions), ("region", .str g.region)]))
  again : ∀ call : ToolCall, call.get? Grant.argumentName = members.get? Grant.argumentName →
    Grant.ofCall call = .ok grants

theorem carries_of_none {members : Fields Json} (h : members.get? Grant.argumentName = none) :
    Carries members [] where
  absent := fun _ => h
  normal := fun hne => absurd rfl hne
  again := fun call hcall => by
    rw [h] at hcall
    simp only [Grant.ofCall, hcall]

theorem carries_of_normal {members : Fields Json} {grants : List Grant} (hne : grants ≠ [])
    (h : members.get? Grant.argumentName = some (.arr (grants.map Grant.toJson))) :
    Carries members grants where
  absent := fun hnil => absurd hnil hne
  normal := fun _ => h
  again := fun _ hcall => Grant.ofCall_normal (hcall.trans h)

/-- Nothing but the grants is changed before a request is prepared. -/
theorem normalizeGrants_carries {call : ToolCall} (hsorted : call.arguments.Sorted)
    {grants : List Grant} (h : Grant.ofCall call = .ok grants) :
    ∃ members, normalizeGrants call = .ok members ∧ Carries members grants ∧
      ∀ name, name ≠ Grant.argumentName → Fields.get? members name = call.get? name := by
  unfold normalizeGrants
  split
  · rename_i hmissing
    have hnone : call.get? Grant.argumentName = none := by
      simpa [Fields.contains, ToolCall.get?] using hmissing
    have hnil : grants = [] := by
      simp only [Grant.ofCall, hnone, Except.ok.injEq] at h
      exact h.symm
    subst hnil
    exact ⟨_, rfl, carries_of_none hnone, fun _ _ => rfl⟩
  · rw [h]
    cases grants with
    | nil =>
      have hgone := Fields.get?_erase_self hsorted Grant.argumentName
      exact ⟨_, rfl, carries_of_none hgone,
        fun name hname => Fields.get?_erase_of_ne call.arguments hname⟩
    | cons g rest =>
      refine ⟨_, rfl, carries_of_normal (List.cons_ne_nil g rest) ?_, fun name hname => ?_⟩
      · rw [Fields.get?_insert, if_pos rfl]
      · rw [Fields.get?_insert, if_neg hname]
        rfl

/-- The arguments of a new access key all go into the body. -/
theorem prepare_accessKey {call : ToolCall} {members : Fields Json}
    (h : normalizeGrants call = .ok members) :
    prepare "create_access_key" call =
      .ok { method := .post, path := "/object-storage/keys", body := some (.obj members) } := by
  have hroute : routeOf? "create_access_key" = some { method := .post, path := accessKeys } := rfl
  simp only [prepare, hroute, ↓reduceIte, h]
  rfl

theorem sorted_request (t : Tool) {call : ToolCall} (h : call.arguments.Sorted) :
    (Invocation.request t call).arguments.Sorted := by
  rw [Invocation.request_eq_filter t h]
  exact h.filter _

/-- An accepted call for a new access key becomes a request for exactly the grants that it asks for
and that were checked, with or without the consent among its arguments. -/
theorem prepare_grants {call sent : ToolCall} (hsorted : call.arguments.Sorted)
    (hrules : Operation.createAccessKey.check call = .ok ())
    (hsent : sent = call ∨ ∃ t, sent = Invocation.request t call) :
    ∃ grants prepared, ∃ members : Fields Json, Grant.ofCall call = .ok grants ∧
      Grant.Asked (call.get? Grant.argumentName) grants ∧ (∀ g ∈ grants, g.check = .ok ()) ∧
      prepare "create_access_key" sent = .ok prepared ∧ prepared.body = some (.obj members) ∧
      Carries members grants ∧
      ∀ name, name ≠ Grant.argumentName → members.get? name = sent.get? name := by
  have haccess : Operation.bucketAccess call = .ok () :=
    (ArgumentRules.check_eq_ok _ call).mp hrules _ (by simp [Operation.createAccessKey])
  unfold Operation.bucketAccess at haccess
  cases hgrants : Grant.ofCall call with
  | error v => simp [hgrants] at haccess
  | ok grants =>
    rw [hgrants] at haccess
    have hsame : sent.arguments.Sorted ∧ sent.get? Grant.argumentName =
        call.get? Grant.argumentName := by
      rcases hsent with rfl | ⟨t, rfl⟩
      · exact ⟨hsorted, rfl⟩
      · exact ⟨sorted_request t hsorted, Invocation.request_get?_of_ne t call (by decide)⟩
    have hread : Grant.ofCall sent = .ok grants := by
      simp only [Grant.ofCall, hsame.2]
      exact hgrants
    obtain ⟨members, hmembers, hcarries, hothers⟩ := normalizeGrants_carries hsame.1 hread
    exact ⟨grants, _, members, rfl, Grant.asked_of_ofCall hgrants,
      Verdict.each_eq_ok.mp haccess, prepare_accessKey hmembers, rfl, hcarries, hothers⟩

/-- The grants come as text, with a member that no grant has and the region under its other name. -/
theorem prepare_grants_text :
    let t := Catalog.accessKeyTools[1]
    let grants := "[\x7b\"cluster\":\"us-east-1\",\"bucket_name\":\"media\",\"note\":null," ++
      "\"permissions\":\"read_only\"\x7d]"
    let call : ToolCall :=
      { tool := "create_access_key"
        arguments := [("bucket_access", .str grants), ("confirm", .bool true),
          ("label", .str "ci-key")] }
    call.arguments.Sorted ∧ Operation.createAccessKey.check call = .ok () ∧
      ∃ prepared, ∃ members : Fields Json,
        prepare "create_access_key" (Invocation.request t call) = .ok prepared ∧
        prepared.body = some (.obj members) ∧
        members.get? "bucket_access" = some (.arr [.obj [("bucket_name", .str "media"),
          ("permissions", .str "read_only"), ("region", .str "us-east-1")]]) := by
  intro t text call
  have hsorted : call.arguments.Sorted := by
    unfold Fields.Sorted
    decide +kernel
  have hrules : Operation.createAccessKey.check call = .ok () := eq_ok_of_toBool (by decide +kernel)
  have hgrants : (Grant.ofCall call).toOption =
      some [{ bucketName := "media", region := "us-east-1", permissions := "read_only" }] := by
    decide +kernel
  obtain ⟨grants, prepared, members, hread, -, -, hprepare, hbody, hcarries, -⟩ :=
    prepare_grants hsorted hrules (Or.inr ⟨t, rfl⟩)
  rw [hread] at hgrants
  obtain rfl := Option.some.inj hgrants
  have hnormal := hcarries.normal (List.cons_ne_nil _ _)
  exact ⟨hsorted, hrules, prepared, members, hprepare, hbody, hnormal⟩

end Request

end CloudGate
