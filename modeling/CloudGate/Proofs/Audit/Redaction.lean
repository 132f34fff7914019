import CloudGate.Proofs.Audit.Completeness

/-!
Secrets in the trail. A text under the name of a secret is replaced by a placeholder before it is
recorded. A value that is no text is recorded as it is, whatever name it stands under.

* `redact_eq_iff`: which arguments the trail does not tell apart.
* `trail_hides_texts`: what the event of a call shows of the secrets in it.
-/

namespace CloudGate

namespace Audit

/-! ## One value -/

/-- What the trail shows of a value that is given under a name. -/
def veil (name : String) (v : Json) : Json :=
  match v with
  | .str s => if Text.isSecretName name then .str (Text.mask s) else .str s
  | _ => v

/-- What stands in the trail for a secret. -/
structure Shown (v shown : Json) : Prop where
  text : ∀ s, v = .str s → shown = .str (if s = "" then "" else "********")
  other : (∀ s, v ≠ .str s) → shown = v

/-- Values under a name that the trail shows alike. -/
inductive Alike (name : String) : Json → Json → Prop
  | same (v : Json) : Alike name v v
  | secret {s s' : String} (hname : name ∈ Text.secretNames) (hs : s ≠ "") (hs' : s' ≠ "") :
      Alike name (.str s) (.str s')

theorem isSecretName_iff (name : String) :
    Text.isSecretName name = true ↔ name ∈ Text.secretNames :=
  List.contains_iff_mem

theorem mask_eq (s : String) : Text.mask s = if s = "" then "" else "********" := by
  simp [Text.mask]

theorem mask_eq_iff (s s' : String) : Text.mask s = Text.mask s' ↔ (s = "" ↔ s' = "") := by
  by_cases hs : s = "" <;> by_cases hs' : s' = "" <;> simp [mask_eq, hs, hs']

theorem veil_text {name : String} (hname : name ∈ Text.secretNames) (s : String) :
    veil name (.str s) = .str (Text.mask s) :=
  if_pos ((isSecretName_iff name).mpr hname)

theorem veil_other (name : String) {v : Json} (h : ∀ s, v ≠ .str s) : veil name v = v := by
  cases v with
  | str s => exact absurd rfl (h s)
  | _ => rfl

theorem veil_of_not_secret {name : String} (hname : name ∉ Text.secretNames) (v : Json) :
    veil name v = v := by
  cases v with
  | str s => exact if_neg fun h => hname ((isSecretName_iff name).mp h)
  | _ => rfl

theorem shown_veil {name : String} (hname : name ∈ Text.secretNames) (v : Json) :
    Shown v (veil name v) := by
  constructor
  · rintro s rfl
    rw [veil_text hname, mask_eq]
  · exact fun hother => veil_other name hother

theorem veil_eq_iff (name : String) (v w : Json) : veil name v = veil name w ↔ Alike name v w := by
  by_cases hname : name ∈ Text.secretNames
  · constructor
    · intro h
      rcases v.text_or_other with ⟨s, rfl⟩ | hv <;> rcases w.text_or_other with ⟨s', rfl⟩ | hw
      · rw [veil_text hname, veil_text hname, Json.str.injEq, mask_eq_iff] at h
        by_cases hs : s = ""
        · rw [hs, h.mp hs]
          exact .same _
        · exact .secret hname hs (mt h.mpr hs)
      · rw [veil_text hname, veil_other name hw] at h
        exact absurd h.symm (hw _)
      · rw [veil_text hname, veil_other name hv] at h
        exact absurd h (hv _)
      · rw [veil_other name hv, veil_other name hw] at h
        exact h ▸ .same v
    · rintro (_ | ⟨_, hs, hs'⟩)
      · rfl
      · rw [veil_text hname, veil_text hname, Json.str.injEq, mask_eq_iff]
        exact iff_of_false hs hs'
  · rw [veil_of_not_secret hname, veil_of_not_secret hname]
    constructor
    · rintro rfl
      exact .same v
    · rintro (_ | ⟨hsecret, _, _⟩)
      · rfl
      · exact absurd hsecret hname

/-! ## All arguments of a call -/

theorem redact_eq_mapValues (arguments : Fields Json) :
    redact arguments = arguments.mapValues veil := rfl

theorem shown_of_get? {arguments : Fields Json} {name : String} {v : Json}
    (hname : name ∈ Text.secretNames) (h : arguments.get? name = some v) :
    ∃ shown, (redact arguments).get? name = some shown ∧ Shown v shown := by
  refine ⟨veil name v, ?_, shown_veil hname v⟩
  rw [redact_eq_mapValues, Fields.get?_mapValues, h, Option.map_some]

/-- Two calls leave the same arguments in the trail exactly if they differ in nothing but texts of
secrets, none of them empty. -/
theorem redact_eq_iff (arguments arguments' : Fields Json) :
    redact arguments = redact arguments' ↔
      List.Forall₂ (fun p q => p.1 = q.1 ∧ Alike p.1 p.2 q.2) arguments arguments' := by
  rw [redact_eq_mapValues, redact_eq_mapValues]
  unfold Fields.mapValues
  induction arguments generalizing arguments' with
  | nil =>
    cases arguments' with
    | nil => simp
    | cons q rest' => simp
  | cons p rest ih =>
    obtain ⟨name, v⟩ := p
    cases arguments' with
    | nil => simp
    | cons q rest' =>
      obtain ⟨name', w⟩ := q
      have hpair : (name, veil name v) = (name', veil name' w) ↔
          name = name' ∧ Alike name v w := by
        rw [Prod.mk.injEq]
        refine and_congr_right fun hname => ?_
        rw [← hname, veil_eq_iff]
      rw [List.map_cons, List.map_cons, List.cons.injEq, hpair, ih, List.forall₂_cons]

end Audit

namespace Registry

theorem invoke_arguments (r : Registry) (limitMs : Option Nat) (gateway : Gateway) (call : ToolCall)
    {e : Audit.Event} (he : e ∈ (r.invoke limitMs gateway call).audit) :
    e.payload.get? "arguments" = some (.obj (Audit.redact call.arguments)) := by
  rcases r.invoke_audit limitMs gateway call with ⟨_, e₀, _, _, haudit, hrecorded⟩ | ⟨_, haudit⟩
  · rw [haudit, List.mem_singleton] at he
    rw [he, hrecorded.arguments]
  · rw [haudit] at he
    exact absurd he List.not_mem_nil

/-- The event of a call shows of every secret in it only whether it is empty if it is a text, and
all of it if it is no text. So calls whose events show the same arguments may differ in the texts of
secrets, and in nothing else. -/
theorem trail_hides_texts {r : Registry} {call : ToolCall} {t : Tool}
    (ht : r.find? call.tool = some t) (hgated : t.isGated = true) (limitMs : Option Nat)
    (gateway : Gateway) :
    ∃ e, ∃ members : Fields Json, (r.invoke limitMs gateway call).audit = [e] ∧
      e.payload.get? "arguments" = some (.obj members) ∧
      (∀ name ∈ Text.secretNames, ∀ v, call.get? name = some v →
        ∃ shown, members.get? name = some shown ∧ Audit.Shown v shown) ∧
      ∀ call' limitMs' gateway' e', e' ∈ (r.invoke limitMs' gateway' call').audit →
        (e'.payload.get? "arguments" = some (.obj members) ↔
          List.Forall₂ (fun p q => p.1 = q.1 ∧ Audit.Alike p.1 p.2 q.2)
            call'.arguments call.arguments) := by
  rcases r.invoke_audit limitMs gateway call with ⟨_, e, _, _, haudit, _⟩ | ⟨hsilent, _⟩
  · have he := r.invoke_arguments limitMs gateway call (haudit ▸ List.mem_cons_self ..)
    refine ⟨e, Audit.redact call.arguments, haudit, he, fun name hname v hv => ?_,
      fun call' limitMs' gateway' e' he' => ?_⟩
    · exact Audit.shown_of_get? hname hv
    · rw [r.invoke_arguments limitMs' gateway' call' he', Option.some.injEq, Json.obj.injEq,
        Audit.redact_eq_iff]
  · rw [hsilent t ht] at hgated
    contradiction

/-- A call with a password in a text and a token in a list, of which the trail shows the list. -/
theorem trail_hides_texts_access_key :
    let call : ToolCall :=
      { tool := "create_object_storage_key"
        arguments := [("password", .str "Sup3r$ecretPass"), ("token", .arr [.str "hunter2"])] }
    let gateway : Gateway := fun _ _ => { outcome := .ok .null, afterMs := 5 }
    ∃ e, ∃ members : Fields Json, (Catalog.registry.invoke none gateway call).audit = [e] ∧
      e.payload.get? "arguments" = some (.obj members) ∧
      members.get? "password" = some (.str "********") ∧
      members.get? "token" = some (.arr [.str "hunter2"]) := by
  intro call gateway
  have hgates : Catalog.registry.gates call.tool = true := by decide +kernel
  obtain ⟨t, ht, hgated⟩ := (Option.any_eq_true _ _).mp hgates
  obtain ⟨e, members, haudit, hargs, hshown, -⟩ := trail_hides_texts ht hgated none gateway
  obtain ⟨password, hpassword, hmasked⟩ := hshown "password" (by decide) _ rfl
  obtain ⟨token, htoken, hkept⟩ := hshown "token" (by decide) _ rfl
  have hplaceholder : password = .str "********" := hmasked.text _ rfl
  have hlist : token = .arr [.str "hunter2"] := hkept.other fun _ => Json.noConfusion
  exact ⟨e, members, haudit, hargs, hplaceholder ▸ hpassword, hlist ▸ htoken⟩

/-- Not every secret is hidden: a password that is a number stands in the trail, even if the call is
refused for want of consent. -/
theorem trail_shows_numbers :
    ¬ ∀ (r : Registry) (limitMs : Option Nat) (gateway : Gateway) (call : ToolCall) (t : Tool)
        (e : Audit.Event) (name : String) (v : Json),
      r.find? call.tool = some t → t.isGated = true →
      e ∈ (r.invoke limitMs gateway call).audit →
      name ∈ Text.secretNames → call.get? name = some v →
      ∃ members : Fields Json, e.payload.get? "arguments" = some (.obj members) ∧
        members.get? name = some (.str (if v.str? = some "" then "" else "********")) := by
  intro hidden
  let call : ToolCall :=
    { tool := "create_instance"
      arguments := [("region", .str "us-east"), ("root_pass", .int 123456789012),
        ("type", .str "g6-nanode-1")] }
  let gateway : Gateway := fun _ _ => { outcome := .ok (.obj []), afterMs := 0 }
  have hgates : Catalog.registry.gates call.tool = true := by decide +kernel
  obtain ⟨t, ht, hgated⟩ := (Option.any_eq_true _ _).mp hgates
  rcases Catalog.registry.invoke_audit none gateway call with
    ⟨_, e, _, _, haudit, _⟩ | ⟨hsilent, _⟩
  · have he : e ∈ (Catalog.registry.invoke none gateway call).audit :=
      haudit ▸ List.mem_cons_self ..
    obtain ⟨members, hmembers, hmasked⟩ := hidden Catalog.registry none gateway call t e "root_pass"
      (.int 123456789012) ht hgated he (by decide) rfl
    rw [invoke_arguments _ _ _ _ he, Option.some.injEq, Json.obj.injEq] at hmembers
    rw [← hmembers] at hmasked
    have hshown : (Audit.redact call.arguments).get? "root_pass" = some (.int 123456789012) := rfl
    rw [hshown, Option.some.injEq] at hmasked
    exact Json.noConfusion hmasked
  · rw [hsilent t ht] at hgated
    contradiction

end Registry

end CloudGate
