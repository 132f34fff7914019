import CloudGate.Operation.Compute
import CloudGate.Operation.ObjectStorage
import CloudGate.Proofs.Operation.Argument
import CloudGate.Proofs.Operation.Grant

/-!
Lists among the arguments: the grants of an access key and the keys of an instance. Each entry is
judged alone, and of several bad ones the first is told.

* `each_judgesEntries`: the verdict on a list is that on its first bad entry, whatever comes behind.
* `check_of_error`, `check_of_passed`: a rule that fails hides the rules behind it.
* `entries_judged`: so a bad label hides the grants, grants that cannot be read are told as a whole,
  and else the first bad grant or key is told with its position.
-/

namespace CloudGate

/-! ## Lists -/

namespace Verdict

/-- The verdict on a list accepts it if the rule accepts each entry, and else tells the violation of
the first entry that is refused, with its position. What stands behind this entry does not
matter. -/
structure JudgesEntries {α : Type} (rule : α → Verdict) (entries : List α) (verdict : Verdict) :
    Prop where
  accepts : verdict = .ok () ↔ ∀ a ∈ entries, rule a = .ok ()
  refuses : ∀ before a after v, entries = before ++ a :: after →
    (∀ b ∈ before, rule b = .ok ()) → rule a = .error v →
      verdict = .error ⟨v.kind, "entry " ++ toString before.length ++ ": " ++ v.message⟩

theorem eachFrom_of_first {α : Type} {rule : α → Verdict} {before : List α}
    (hbefore : ∀ b ∈ before, rule b = .ok ()) {a : α} {v : Violation} (ha : rule a = .error v)
    (index : Nat) (after : List α) :
    eachFrom rule index (before ++ a :: after) = .error (v.inEntry (index + before.length)) := by
  induction before generalizing index with
  | nil => simp [eachFrom, ha]
  | cons b rest ih =>
    obtain ⟨hb, hrest⟩ := List.forall_mem_cons.mp hbefore
    have hlength : index + (b :: rest).length = index + 1 + rest.length := by
      rw [List.length_cons]
      omega
    rw [List.cons_append, eachFrom, hb, hlength]
    exact ih hrest (index + 1)

theorem each_judgesEntries {α : Type} (rule : α → Verdict) (entries : List α) :
    JudgesEntries rule entries (each rule entries) where
  accepts := each_eq_ok
  refuses := by
    rintro before a after v rfl hbefore ha
    have hfirst := eachFrom_of_first hbefore ha 0 after
    rw [Nat.zero_add] at hfirst
    exact hfirst

end Verdict

/-! ## Rules one after the other -/

namespace ArgumentRules

variable {r : ArgumentRules} {call : ToolCall} {passed : List (ToolCall → Verdict)}

/-- Rules that hold leave the verdict to the others. -/
theorem check_of_passed {rest : List (ToolCall → Verdict)} (hrules : r.rules = passed ++ rest)
    (hpassed : ∀ rule ∈ passed, rule call = .ok ()) :
    r.check call = rest.forM fun rule => rule call := by
  unfold check
  rw [hrules]
  clear hrules
  induction passed with
  | nil => rfl
  | cons rule more ih =>
    obtain ⟨hrule, hmore⟩ := List.forall_mem_cons.mp hpassed
    rw [List.cons_append, List.forM, hrule]
    exact ih hmore

theorem check_of_last {rule : ToolCall → Verdict} (hrules : r.rules = passed ++ [rule])
    (hpassed : ∀ rule ∈ passed, rule call = .ok ()) : r.check call = rule call := by
  rw [check_of_passed hrules hpassed]
  unfold List.forM
  cases rule call with
  | error v => rfl
  | ok u => rfl

/-- What stands behind a rule that fails is not looked at. -/
theorem check_of_error {rule : ToolCall → Verdict} {rest : List (ToolCall → Verdict)}
    {v : Violation} (hrules : r.rules = passed ++ rule :: rest)
    (hpassed : ∀ rule ∈ passed, rule call = .ok ()) (hrule : rule call = .error v) :
    r.check call = .error v := by
  rw [check_of_passed hrules hpassed, List.forM, hrule]
  rfl

end ArgumentRules

/-! ## Grants -/

/-- Whatever is wrong with grants that cannot be read, it is a matter of their format. -/
theorem Grant.ofCall_kind {call : ToolCall} {v : Violation} (h : Grant.ofCall call = .error v) :
    v.kind = .invalidFormat := by
  have hlist : ∀ text, Grant.parseList text = .error v → v.kind = .invalidFormat := by
    intro text htext
    unfold Grant.parseList at htext
    split at htext
    · contradiction
    · exact Except.error.inj htext ▸ rfl
  unfold Grant.ofCall at h
  split at h
  · contradiction
  · unfold Grant.ofJson at h
    split at h
    · contradiction
    · split at h
      · contradiction
      · exact hlist _ h
    · split at h
      · contradiction
      · exact Except.error.inj h ▸ rfl

namespace Operation

theorem createAccessKey_of_label {call : ToolCall} {v : Violation}
    (h : Rule.accessKeyLabel (call.text "label") = .error v) :
    createAccessKey.check call = .error v :=
  ArgumentRules.check_of_error
    (show createAccessKey.rules = [] ++ textual "label" Rule.accessKeyLabel :: [bucketAccess]
      from rfl)
    (List.forall_mem_nil _) h

theorem createAccessKey_of_grants {call : ToolCall}
    (h : Rule.accessKeyLabel (call.text "label") = .ok ()) :
    createAccessKey.check call = bucketAccess call :=
  ArgumentRules.check_of_last
    (show createAccessKey.rules = [textual "label" Rule.accessKeyLabel] ++ [bucketAccess] from rfl)
    (List.forall_mem_cons.mpr ⟨h, List.forall_mem_nil _⟩)

/-! ## Keys -/

/-- The rules of an instance that come before the one for its keys. -/
def beforeKeys : List ArgumentRule :=
  [optionalText "label" Rule.resourceLabel, region "region", notBlank "type",
    textual "root_pass" Rule.rootPassword]

/-- The key that an element of the list stands for. -/
def keyText : Json → String
  | .str s => s
  | _ => ""

theorem keyText_eq (v : Json) : v.str?.getD "" = keyText v := by
  cases v <;> rfl

theorem createInstance_of_keys {call : ToolCall} (h : ∀ rule ∈ beforeKeys, rule call = .ok ()) :
    createInstance.check call = authorizedKeys call :=
  ArgumentRules.check_of_last
    (show createInstance.rules = beforeKeys ++ [authorizedKeys] from rfl) h

theorem authorizedKeys_of_lacks {call : ToolCall} (h : call.Lacks "authorized_keys") :
    authorizedKeys call = .ok () := by
  unfold authorizedKeys
  rcases h with h | h <;> rw [h] <;> rfl

theorem authorizedKeys_of_list {call : ToolCall} {keys : List Json}
    (h : call.get? "authorized_keys" = some (.arr keys)) :
    authorizedKeys call = .each (fun key => Rule.sshPublicKey (keyText key)) keys := by
  unfold authorizedKeys
  rw [h]
  simp only [keyText_eq]

theorem authorizedKeys_of_other {call : ToolCall} {v : Json}
    (h : call.get? "authorized_keys" = some v) (hnull : v ≠ .null)
    (hlist : ∀ keys, v ≠ .arr keys) :
    authorizedKeys call = .error ⟨.invalidFormat,
      "got " ++ v.render ++ ": authorized_keys must be an array of strings"⟩ := by
  unfold authorizedKeys
  rw [h]
  cases v with
  | null => contradiction
  | arr keys => exact absurd rfl (hlist keys)
  | _ => rfl

/-! ## Both operations -/

/-- A bad label of an access key is told and nothing else looked at. Grants that cannot be read are
a matter of format, and those that can be read are judged entry by entry. So are the keys of an
instance, behind its other rules; an element that is no text counts as the empty key. -/
theorem entries_judged (call : ToolCall) :
    (∀ v, Rule.accessKeyLabel (call.text "label") = .error v →
      ∀ call' : ToolCall, call'.get? "label" = call.get? "label" →
        createAccessKey.check call' = .error v) ∧
    (Rule.accessKeyLabel (call.text "label") = .ok () →
      (∀ v, Grant.ofCall call = .error v →
        createAccessKey.check call = .error v ∧ v.kind = .invalidFormat) ∧
      ∀ grants, Grant.ofCall call = .ok grants →
        Verdict.JudgesEntries Grant.check grants (createAccessKey.check call)) ∧
    ((∀ rule ∈ beforeKeys, rule call = .ok ()) →
      (call.Lacks "authorized_keys" → createInstance.check call = .ok ()) ∧
      (∀ keys, call.get? "authorized_keys" = some (.arr keys) →
        Verdict.JudgesEntries (fun key => Rule.sshPublicKey (keyText key)) keys
          (createInstance.check call)) ∧
      ∀ v, call.get? "authorized_keys" = some v → v ≠ .null → (∀ keys, v ≠ .arr keys) →
        createInstance.check call = .error ⟨.invalidFormat,
          "got " ++ v.render ++ ": authorized_keys must be an array of strings"⟩) := by
  refine ⟨fun v hlabel call' hsame => ?_, fun hlabel => ?_, fun hbefore => ?_⟩
  · refine createAccessKey_of_label ?_
    rwa [ToolCall.text, ToolCall.string?, hsame]
  · rw [createAccessKey_of_grants hlabel]
    unfold bucketAccess
    refine ⟨fun v hunread => ?_, fun grants hread => ?_⟩
    · rw [hunread]
      exact ⟨rfl, Grant.ofCall_kind hunread⟩
    · rw [hread]
      exact Verdict.each_judgesEntries _ _
  · rw [createInstance_of_keys hbefore]
    refine ⟨authorizedKeys_of_lacks, fun keys hkeys => ?_, fun v => authorizedKeys_of_other⟩
    rw [authorizedKeys_of_list hkeys]
    exact Verdict.each_judgesEntries _ _

/-- Of three grants the second asks for too much, and the third would have no bucket. Without the
label the same grants are not looked at. A number among the keys of an instance is a missing key. -/
theorem entries_judged_second :
    let logs : Grant := { bucketName := "logs", region := "us-east", permissions := "read_only" }
    let media : Grant := { logs with bucketName := "media", permissions := "admin" }
    let grants : Json := .arr [logs.toJson, media.toJson, .obj []]
    let v : Violation := ⟨.required, "label is required"⟩
    createAccessKey.check
        ⟨"create_access_key", [("bucket_access", grants), ("label", .str "ci-key")]⟩ =
      .error ⟨.invalidEnumValue,
        "entry 1: got 'admin': permissions must be 'read_only' or 'read_write'"⟩ ∧
    createAccessKey.check ⟨"create_access_key", [("bucket_access", grants)]⟩ = .error v ∧
    createInstance.check ⟨"create_instance", [("authorized_keys", .arr [.int 5]),
        ("region", .str "us-east"), ("type", .str "g6-nanode-1")]⟩ =
      .error ⟨.required, "entry 0: ssh_key is required"⟩ := by
  intro logs media grants v
  let named : ToolCall :=
    ⟨"create_access_key", [("bucket_access", grants), ("label", .str "ci-key")]⟩
  let keyed : ToolCall := ⟨"create_instance", [("authorized_keys", .arr [.int 5]),
    ("region", .str "us-east"), ("type", .str "g6-nanode-1")]⟩
  have hlogs : ∀ g ∈ [logs], g.check = .ok () :=
    List.forall_mem_cons.mpr ⟨eq_ok_of_toBool (by decide +kernel), List.forall_mem_nil _⟩
  have hmedia : media.check = .error ⟨.invalidEnumValue,
      "got 'admin': permissions must be 'read_only' or 'read_write'"⟩ := by decide +kernel
  have hread : Grant.ofCall named =
      .ok [logs, media, { bucketName := "", region := "", permissions := "" }] := rfl
  have hlabel : Rule.accessKeyLabel (named.text "label") = .ok () :=
    eq_ok_of_toBool (by decide +kernel)
  have hbefore : ∀ rule ∈ beforeKeys, rule keyed = .ok () := by
    simp only [beforeKeys, List.forall_mem_cons]
    exact ⟨rfl, eq_ok_of_toBool (by decide +kernel), eq_ok_of_toBool (by decide +kernel), rfl,
      List.forall_mem_nil _⟩
  obtain ⟨-, hgrants, -⟩ := entries_judged named
  obtain ⟨-, -, hkeys⟩ := entries_judged keyed
  refine ⟨?_, (entries_judged ⟨"create_access_key", []⟩).1 v rfl _ rfl, ?_⟩
  · exact (((hgrants hlabel).2 _ hread).refuses [logs] media _ _ rfl hlogs
      hmedia).trans (by decide +kernel)
  · exact (((hkeys hbefore).2.1 _ rfl).refuses [] (.int 5) [] _ rfl (List.forall_mem_nil _)
      rfl).trans (by decide +kernel)

end Operation

end CloudGate
