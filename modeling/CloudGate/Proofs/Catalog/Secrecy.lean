import CloudGate.Proofs.Audit.Redaction
import CloudGate.Proofs.Catalog.Texts

/-!
What the tools of the catalog see of secrets: whether they are given and whether they are empty, and
of a root password its length and its classes of characters.

* `SameButSecrets`: calls that differ only in what is not seen.
* `rootPassword_congr`: the rule for passwords sees no more than these traits.
* `checkRules_congr`, `checkShape_eq`, `filtersFor_congr`: nor does anything else in a tool.
-/

namespace CloudGate

/-- Passwords of the same length with the same classes of characters. -/
structure Rule.PasswordsAlike (s s' : String) : Prop where
  length : s.length = s'.length
  uppercase : s.toList.any Text.isUppercase = s'.toList.any Text.isUppercase
  lowercase : s.toList.any Text.isLowercase = s'.toList.any Text.isLowercase
  digit : s.toList.any Char.isDigit = s'.toList.any Char.isDigit

theorem Rule.PasswordsAlike.refl (s : String) : PasswordsAlike s s := ⟨rfl, rfl, rfl, rfl⟩

/-- A message about a password tells its length or the classes that it lacks. -/
theorem Rule.rootPassword_congr {s s' : String} (h : PasswordsAlike s s') :
    rootPassword s = rootPassword s' := by
  have hempty : s.isEmpty = s'.isEmpty := by
    rw [Bool.eq_iff_iff, isEmpty_iff_length, isEmpty_iff_length, h.length]
  simp only [rootPassword, missingClasses, hempty, h.length, h.uppercase, h.lowercase, h.digit]

namespace ToolCall

/-- Calls that differ in nothing but texts of secrets, none of them empty. -/
structure SameButSecrets (call call' : ToolCall) : Prop where
  tool : call.tool = call'.tool
  arguments : List.Forall₂ (fun p q => p.1 = q.1 ∧ Audit.Alike p.1 p.2 q.2)
    call.arguments call'.arguments
  passwords : ∀ s s', call.get? "root_pass" = some (.str s) →
    call'.get? "root_pass" = some (.str s') → Rule.PasswordsAlike s s'

/-- What stands under a name in two lists of arguments that the trail shows alike. -/
theorem alike_of_get? {arguments arguments' : Fields Json}
    (h : List.Forall₂ (fun p q => p.1 = q.1 ∧ Audit.Alike p.1 p.2 q.2) arguments arguments')
    (name : String) :
    (arguments.get? name = none ∧ arguments'.get? name = none) ∨
      ∃ v w, arguments.get? name = some v ∧ arguments'.get? name = some w ∧
        Audit.Alike name v w := by
  induction h with
  | nil => exact .inl ⟨rfl, rfl⟩
  | @cons p q rest rest' hpair _ ih =>
    obtain ⟨n, v⟩ := p
    obtain ⟨n', w⟩ := q
    obtain ⟨rfl, halike⟩ := hpair
    simp only [Fields.get?]
    by_cases hn : n = name
    · rw [if_pos hn, if_pos hn]
      exact .inr ⟨v, w, rfl, rfl, hn ▸ halike⟩
    · rw [if_neg hn, if_neg hn]
      exact ih

section SameButSecrets

variable {call call' : ToolCall} (h : call.SameButSecrets call')
include h

theorem SameButSecrets.get?_eq {name : String} (hname : name ∉ Text.secretNames) :
    call.get? name = call'.get? name := by
  rcases alike_of_get? h.arguments name with ⟨hnone, hnone'⟩ | ⟨v, w, hv, hw, halike⟩
  · exact hnone.trans hnone'.symm
  · cases halike with
    | same => exact hv.trans hw.symm
    | secret hsecret => exact absurd hsecret hname

theorem SameButSecrets.string?_eq {name : String} (hname : name ∉ Text.secretNames) :
    call.string? name = call'.string? name := by
  unfold string?
  rw [h.get?_eq hname]

theorem SameButSecrets.text_eq {name : String} (hname : name ∉ Text.secretNames) :
    call.text name = call'.text name := by
  unfold text
  rw [h.string?_eq hname]

theorem SameButSecrets.password : Rule.PasswordsAlike (call.text "root_pass")
    (call'.text "root_pass") := by
  unfold text string? get?
  rcases alike_of_get? h.arguments "root_pass" with ⟨hnone, hnone'⟩ | ⟨v, w, hv, hw, halike⟩
  · rw [hnone, hnone']
    exact .refl _
  · rw [hv, hw]
    cases halike with
    | same => exact .refl _
    | secret => exact h.passwords _ _ hv hw

theorem SameButSecrets.names_eq : call.arguments.names = call'.arguments.names := by
  have hnames := h.arguments
  unfold Fields.names
  generalize call.arguments = arguments, call'.arguments = arguments' at hnames
  induction hnames with
  | nil => rfl
  | cons hpair _ ih => rw [List.map_cons, List.map_cons, hpair.1, ih]

theorem SameButSecrets.contains_eq (name : String) :
    call.arguments.contains name = call'.arguments.contains name := by
  unfold Fields.contains
  rcases alike_of_get? h.arguments name with ⟨hnone, hnone'⟩ | ⟨v, w, hv, hw, -⟩
  · rw [hnone, hnone']
  · rw [hv, hw]
    rfl

end SameButSecrets

end ToolCall

namespace Operation

/-! ## Rules -/

/-- The rule judges calls alike that differ in texts of secrets. -/
def IgnoresSecrets (rule : ArgumentRule) : Prop :=
  ∀ call call', call.SameButSecrets call' → rule call = rule call'

@[simp]
theorem ignores_rootPassword : IgnoresSecrets (textual "root_pass" Rule.rootPassword) :=
  fun _ _ h => Rule.rootPassword_congr h.password

section

variable {key : String} (hkey : key ∉ Text.secretNames)
include hkey

@[simp]
theorem ignores_textual (rule : String → Verdict) : IgnoresSecrets (textual key rule) :=
  fun _ _ h => textual_congr (h.string?_eq hkey) rule

@[simp]
theorem ignores_notBlank : IgnoresSecrets (notBlank key) := ignores_textual hkey _

@[simp]
theorem ignores_region : IgnoresSecrets (region key) := ignores_textual hkey _

@[simp]
theorem ignores_policy : IgnoresSecrets (policy key) := ignores_textual hkey _

@[simp]
theorem ignores_optionalText (rule : String → Verdict) : IgnoresSecrets (optionalText key rule) :=
  fun _ _ h => optionalText_congr (h.get?_eq hkey) rule

@[simp]
theorem ignores_integer (rule : Int → Verdict) : IgnoresSecrets (integer key rule) :=
  fun _ _ h => integer_congr (h.get?_eq hkey) rule

@[simp]
theorem ignores_identifier : IgnoresSecrets (identifier key) := ignores_integer hkey _

@[simp]
theorem ignores_optionalInteger (rule : Int → Verdict) :
    IgnoresSecrets (optionalInteger key rule) :=
  fun _ _ h => optionalInteger_congr (h.get?_eq hkey) rule

end

@[simp]
theorem ignores_authorizedKeys : IgnoresSecrets authorizedKeys :=
  fun _ _ h => authorizedKeys_congr (h.get?_eq (by decide))

@[simp]
theorem ignores_domainType : IgnoresSecrets domainType :=
  fun _ _ h => domainType_congr (h.string?_eq (by decide))

@[simp]
theorem ignores_soaEmail : IgnoresSecrets soaEmail :=
  fun _ _ h => soaEmail_congr (h.string?_eq (by decide)) (h.string?_eq (by decide))

@[simp]
theorem ignores_recordType : IgnoresSecrets recordType :=
  fun _ _ h => recordType_congr (h.string?_eq (by decide))

@[simp]
theorem ignores_recordTarget : IgnoresSecrets recordTarget :=
  fun _ _ h => recordTarget_congr (h.string?_eq (by decide)) (h.string?_eq (by decide))

@[simp]
theorem ignores_changedTarget : IgnoresSecrets changedTarget := by
  intro call call' h
  simp only [changedTarget, h.contains_eq, ignores_recordTarget call call' h]

@[simp]
theorem ignores_bucketAccess : IgnoresSecrets bucketAccess := by
  intro call call' h
  have hgrants := h.get?_eq (show Grant.argumentName ∉ Text.secretNames by decide)
  simp only [bucketAccess, Grant.ofCall, hgrants]

end Operation

namespace Catalog

open Operation

/-! ## Tools -/

/-- The rules of all operations, in the order of the tools. -/
def operationRules : List ArgumentRules :=
  [getInstance, createInstance, deleteInstance, rebootInstance, shutdownInstance, resizeInstance,
   createSshKey, deleteSshKey, createVolume, resizeVolume, attachVolume, detachVolume, deleteVolume,
   createDomain, deleteDomain, listDomainRecords, createDomainRecord, updateDomainRecord,
   deleteDomainRecord, createFirewall, updateFirewall, deleteFirewall, createLoadBalancer,
   deleteLoadBalancer, createVpc, deleteVpc, createBucket, updateBucketAcl, deleteBucket,
   createAccessKey, deleteAccessKey, createPresignedUrl]

theorem operationRules_eq_filterMap : tools.filterMap (·.rules) = operationRules := rfl

theorem operationRules_ignore : ∀ r ∈ operationRules, ∀ rule ∈ r.rules, IgnoresSecrets rule := by
  simp [operationRules, Text.secretNames, getInstance, createInstance, deleteInstance,
    rebootInstance, shutdownInstance, resizeInstance, createSshKey, deleteSshKey, createVolume,
    resizeVolume, attachVolume, detachVolume, deleteVolume, createDomain, deleteDomain,
    listDomainRecords, createDomainRecord, updateDomainRecord, deleteDomainRecord, createFirewall,
    updateFirewall, deleteFirewall, createLoadBalancer, deleteLoadBalancer, createVpc, deleteVpc,
    createBucket, updateBucketAcl, deleteBucket, createAccessKey, deleteAccessKey,
    createPresignedUrl]

theorem filters_no_secrets : ∀ t ∈ tools, ∀ f ∈ t.filters, f.param ∉ Text.secretNames := by
  decide

section

variable {t : Tool} (ht : t ∈ registry.all) {call call' : ToolCall}
  (h : call.SameButSecrets call')
include ht h

theorem checkRules_congr : t.checkRules call = t.checkRules call' := by
  unfold Tool.checkRules
  cases hr : t.rules with
  | none => rfl
  | some r =>
    have hmem : r ∈ operationRules := by
      rw [← operationRules_eq_filterMap, List.mem_filterMap]
      exact ⟨t, (mem_registry_iff t).mp ht, hr⟩
    exact check_congr fun rule hrule => operationRules_ignore r hmem rule hrule call call' h

theorem filtersFor_congr : t.filtersFor call = t.filtersFor call' := by
  unfold Tool.filtersFor
  refine List.filterMap_congr fun f hf => ?_
  rw [h.text_eq (filters_no_secrets t ((mem_registry_iff t).mp ht) f hf)]

end

end Catalog

theorem ToolCall.SameButSecrets.checkShape_eq {call call' : ToolCall}
    (h : call.SameButSecrets call') (t : Tool) : t.checkShape call = t.checkShape call' := by
  simp only [Tool.checkShape, h.contains_eq, h.names_eq]

end CloudGate
