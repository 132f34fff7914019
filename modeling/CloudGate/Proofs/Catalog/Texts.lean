import CloudGate.Proofs.Catalog.Admission
import Mathlib.Data.List.Nodup

/-!
Arguments that have to be texts. Most rules for texts refuse a value that is no text, because they
refuse the empty text, which such a value reads as. A rule that the empty text meets overlooks it.

* `texts_judged`: which arguments of which operations are sure to be texts if they are given, and
  which are not.
-/

namespace CloudGate

namespace ToolCall

/-- The argument is a text if it is given at all. -/
def TextOrMissing (call : ToolCall) (key : String) : Prop :=
  call.Lacks key ∨ ∃ s, call.get? key = some (.str s)

/-- The calls have the same arguments but for one, which is no text in either of them. -/
structure SameBut (key : String) (call call' : ToolCall) : Prop where
  others : ∀ name, name ≠ key → call.get? name = call'.get? name
  noText : call.string? key = none
  noText' : call'.string? key = none

theorem Gives.textOrMissing {call : ToolCall} {key : String} {P : String → Prop}
    (h : call.Gives key P) : call.TextOrMissing key := by
  obtain ⟨s, hs, -⟩ := h
  exact Or.inr ⟨s, hs⟩

theorem SameBut.string?_eq {key : String} {call call' : ToolCall} (h : SameBut key call call')
    (name : String) : call.string? name = call'.string? name := by
  by_cases hname : name = key
  · rw [hname, h.noText, h.noText']
  · unfold string?
    rw [h.others name hname]

end ToolCall

/-- The rules let only texts pass under the name, apart from nothing at all. -/
def ArgumentRules.Insists (r : ArgumentRules) (key : String) : Prop :=
  ∀ call, r.check call = .ok () → call.TextOrMissing key

/-- The rules let other values pass under the name, and take all of them for missing. -/
structure ArgumentRules.Overlooks (r : ArgumentRules) (key : String) : Prop where
  passes : ∃ call, r.check call = .ok () ∧ ¬ call.TextOrMissing key
  blind : ∀ call call', call.SameBut key call' → r.check call = r.check call'

namespace Operation

/-! ## Rules for values that refuse the empty text -/

@[simp]
theorem resourceLabel_empty : Rule.resourceLabel "" ≠ .ok () := ne_ok_of_toBool (by decide)

@[simp]
theorem bucketLabel_empty : Rule.bucketLabel "" ≠ .ok () := ne_ok_of_toBool (by decide)

@[simp]
theorem bucketAcl_empty : Rule.bucketAcl "" ≠ .ok () := ne_ok_of_toBool (by decide)

@[simp]
theorem sshPublicKey_empty : Rule.sshPublicKey "" ≠ .ok () := ne_ok_of_toBool (by decide)

@[simp]
theorem accessKeyLabel_empty : Rule.accessKeyLabel "" ≠ .ok () := ne_ok_of_toBool (by decide)

@[simp]
theorem domainName_empty : Rule.domainName "" ≠ .ok () := ne_ok_of_toBool (by decide)

/-- No type of record has an empty target. -/
theorem recordTarget_empty (type : RecordType) : Rule.recordTarget type "" ≠ .ok () := by
  cases type with
  | _ => exact ne_ok_of_toBool (by decide)

/-! ## Rules that insist on texts -/

/-- The rule lets only texts pass under the name, apart from nothing at all. -/
def Insists (key : String) (rule : ArgumentRule) : Prop :=
  ∀ call, rule call = .ok () → call.TextOrMissing key

theorem Insists.of_mem {key : String} {rule : ArgumentRule} (h : Insists key rule)
    {r : ArgumentRules} (hmem : rule ∈ r.rules) : r.Insists key :=
  fun call hcall => h call ((r.check_eq_ok call).mp hcall rule hmem)

@[simp]
theorem insists_textual {key : String} {rule : String → Verdict} (hempty : rule "" ≠ .ok ()) :
    Insists key (textual key rule) :=
  fun call h => ((textual_eq_ok hempty call).mp h).textOrMissing

@[simp]
theorem insists_optionalText (key : String) (rule : String → Verdict) :
    Insists key (optionalText key rule) := by
  intro call h
  rcases (optionalText_eq_ok key rule call).mp h with hlacks | hgives
  · exact Or.inl hlacks
  · exact hgives.textOrMissing

@[simp]
theorem insists_notBlank (key : String) : Insists key (notBlank key) :=
  insists_textual (by simp [Text.isBlankText])

@[simp]
theorem insists_region (key : String) : Insists key (region key) :=
  insists_textual (by simp [Rule.region])

@[simp]
theorem insists_policy (key : String) : Insists key (policy key) :=
  insists_textual (by simp [Text.isBlankText])

@[simp]
theorem insists_recordType : Insists "type" recordType := by
  intro call h
  rcases call.text_cases "type" with ⟨s, hs, -⟩ | htext
  · exact Or.inr ⟨s, hs⟩
  · simp [recordType, htext, RecordType.parse, Except.map] at h

@[simp]
theorem insists_recordTarget : Insists "target" recordTarget := by
  intro call h
  rcases call.text_cases "target" with ⟨s, hs, -⟩ | htext
  · exact Or.inr ⟨s, hs⟩
  · unfold recordTarget at h
    split at h
    · contradiction
    · rw [htext] at h
      exact absurd h (recordTarget_empty _)

@[simp]
theorem insists_changedTarget : Insists "target" changedTarget := by
  intro call h
  unfold changedTarget at h
  split at h
  · exact insists_recordTarget call h
  · rename_i hmissing
    exact Or.inl (Or.inl (Option.not_isSome_iff_eq_none.mp hmissing))

/-! ## Rules look at nothing but their arguments -/

section Congruence

variable {call call' : ToolCall}

theorem textual_congr {key : String} (h : call.string? key = call'.string? key)
    (rule : String → Verdict) : textual key rule call = textual key rule call' := by
  simp only [textual, ToolCall.text, h]

theorem optionalText_congr {key : String} (h : call.get? key = call'.get? key)
    (rule : String → Verdict) : optionalText key rule call = optionalText key rule call' := by
  simp only [optionalText, h]

theorem integer_congr {key : String} (h : call.get? key = call'.get? key) (rule : Int → Verdict) :
    integer key rule call = integer key rule call' := by
  simp only [integer, ToolCall.int?, h]

theorem optionalInteger_congr {key : String} (h : call.get? key = call'.get? key)
    (rule : Int → Verdict) : optionalInteger key rule call = optionalInteger key rule call' := by
  simp only [optionalInteger, ToolCall.int?, h]

theorem authorizedKeys_congr (h : call.get? "authorized_keys" = call'.get? "authorized_keys") :
    authorizedKeys call = authorizedKeys call' := by
  simp only [authorizedKeys, h]

theorem domainType_congr (h : call.string? "type" = call'.string? "type") :
    domainType call = domainType call' := by
  simp only [domainType, h]

theorem soaEmail_congr (htype : call.string? "type" = call'.string? "type")
    (hemail : call.string? "soa_email" = call'.string? "soa_email") :
    soaEmail call = soaEmail call' := by
  simp only [soaEmail, ToolCall.text, htype, hemail]

theorem recordType_congr (h : call.string? "type" = call'.string? "type") :
    recordType call = recordType call' := by
  simp only [recordType, ToolCall.text, h]

theorem recordTarget_congr (htype : call.string? "type" = call'.string? "type")
    (htarget : call.string? "target" = call'.string? "target") :
    recordTarget call = recordTarget call' := by
  simp only [recordTarget, ToolCall.text, htype, htarget]

end Congruence

theorem check_congr {r : ArgumentRules} {call call' : ToolCall}
    (h : ∀ rule ∈ r.rules, rule call = rule call') : r.check call = r.check call' := by
  unfold ArgumentRules.check
  generalize r.rules = rules at h
  induction rules with
  | nil => rfl
  | cons rule rest ih =>
    obtain ⟨hrule, hrest⟩ := List.forall_mem_cons.mp h
    simp only [List.forM, hrule, ih hrest]

end Operation

namespace Catalog

/-! ## Operations that overlook an argument -/

open Operation

/-- The arguments that an operation judges as texts in every call. The contact of a zone is not
among them, as only master zones need one, nor is the type of a record whose target stays. -/
def textArguments (operation : String) : List String :=
  match operation with
  | "create_instance" => ["label", "region", "type", "root_pass"]
  | "resize_instance" => ["type"]
  | "create_ssh_key" => ["label", "ssh_key"]
  | "create_volume" => ["label"]
  | "create_domain" => ["domain", "type"]
  | "create_domain_record" => ["type", "name", "target"]
  | "update_domain_record" => ["name", "target"]
  | "create_firewall" | "update_firewall" => ["label", "inbound_policy", "outbound_policy"]
  | "create_load_balancer" | "create_vpc" => ["label", "region"]
  | "create_bucket" | "update_bucket_acl" => ["label", "cluster", "acl"]
  | "delete_bucket" => ["label", "cluster"]
  | "create_access_key" => ["label"]
  | "create_presigned_url" => ["label", "cluster", "name", "method"]
  | _ => []

/-- The text arguments whose rules are met by the empty text, or are left out without a text. -/
def overlooked : List (String × String) :=
  [("create_instance", "root_pass"), ("create_domain", "type"), ("create_domain_record", "name")]

theorem createInstance_overlooks : createInstance.Overlooks "root_pass" where
  passes := by
    refine ⟨⟨"create_instance", [("region", .str "us-east"), ("root_pass", .int 123456789012),
      ("type", .str "g6-nanode-1")]⟩, eq_ok_of_toBool (by decide +kernel), ?_⟩
    simp [ToolCall.TextOrMissing, ToolCall.Lacks, ToolCall.get?, Fields.get?, Json.int]
  blind := by
    intro call call' h
    refine check_congr ?_
    simp only [createInstance, List.forall_mem_cons]
    exact ⟨optionalText_congr (h.others _ (by decide)) _, textual_congr (h.string?_eq _) _,
      textual_congr (h.string?_eq _) _, textual_congr (h.string?_eq _) _,
      authorizedKeys_congr (h.others _ (by decide)), List.forall_mem_nil _⟩

theorem createDomain_overlooks : createDomain.Overlooks "type" where
  passes := by
    refine ⟨⟨"create_domain", [("domain", .str "example.com"),
      ("soa_email", .str "admin@example.com"), ("type", .int 5)]⟩,
      eq_ok_of_toBool (by decide +kernel), ?_⟩
    simp [ToolCall.TextOrMissing, ToolCall.Lacks, ToolCall.get?, Fields.get?, Json.int]
  blind := by
    intro call call' h
    refine check_congr ?_
    simp only [createDomain, List.forall_mem_cons]
    exact ⟨textual_congr (h.string?_eq _) _, domainType_congr (h.string?_eq _),
      soaEmail_congr (h.string?_eq _) (h.string?_eq _), List.forall_mem_nil _⟩

theorem createDomainRecord_overlooks : createDomainRecord.Overlooks "name" where
  passes := by
    refine ⟨⟨"create_domain_record", [("domain_id", .int 1), ("name", .int 5),
      ("target", .str "8.8.8.8"), ("type", .str "A")]⟩, eq_ok_of_toBool (by decide +kernel), ?_⟩
    simp [ToolCall.TextOrMissing, ToolCall.Lacks, ToolCall.get?, Fields.get?, Json.int]
  blind := by
    intro call call' h
    refine check_congr ?_
    simp only [createDomainRecord, List.forall_mem_cons]
    exact ⟨integer_congr (h.others _ (by decide)) _, recordType_congr (h.string?_eq _),
      textual_congr (h.string?_eq _) _, recordTarget_congr (h.string?_eq _) (h.string?_eq _),
      optionalInteger_congr (h.others _ (by decide)) _, List.forall_mem_nil _⟩

/-! ## All operations -/

/-- The rules of the catalog that judge texts. -/
def textRules : List ArgumentRules :=
  [createInstance, resizeInstance, createSshKey, createVolume, createDomain, createDomainRecord,
   updateDomainRecord, createFirewall, updateFirewall, createLoadBalancer, createVpc, createBucket,
   updateBucketAcl, deleteBucket, createAccessKey, createPresignedUrl]

theorem textRules_eq_filter :
    (tools.filterMap (·.rules)).filter (fun r => textArguments r.operation ≠ []) = textRules :=
  rfl

theorem textRules_distinct : (textRules.map (·.operation)).Nodup := by decide

theorem eq_of_operation {r r' : ArgumentRules} (hr : r ∈ textRules) (hr' : r' ∈ textRules)
    (h : r.operation = r'.operation) : r = r' :=
  List.inj_on_of_nodup_map textRules_distinct hr hr' h

theorem overlooks_of_mem {r : ArgumentRules} (hr : r ∈ textRules) {key : String}
    (h : (r.operation, key) ∈ overlooked) : r.Overlooks key := by
  simp only [overlooked, List.mem_cons, List.not_mem_nil, or_false, Prod.mk.injEq] at h
  rcases h with ⟨hoperation, rfl⟩ | ⟨hoperation, rfl⟩ | ⟨hoperation, rfl⟩
  · have hmem : createInstance ∈ textRules := by simp [textRules]
    rw [eq_of_operation hr hmem hoperation]
    exact createInstance_overlooks
  · have hmem : createDomain ∈ textRules := by simp [textRules]
    rw [eq_of_operation hr hmem hoperation]
    exact createDomain_overlooks
  · have hmem : createDomainRecord ∈ textRules := by simp [textRules]
    rw [eq_of_operation hr hmem hoperation]
    exact createDomainRecord_overlooks

/-- Apart from what is overlooked, each text argument has a rule that insists on it. -/
theorem insisting_rule : ∀ r ∈ textRules, ∀ key ∈ textArguments r.operation,
    (r.operation, key) ∉ overlooked → ∃ rule ∈ r.rules, Insists key rule := by
  simp [textRules, textArguments, overlooked, createInstance, resizeInstance, createSshKey,
    createVolume, createDomain, createDomainRecord, updateDomainRecord, createFirewall,
    updateFirewall, createLoadBalancer, createVpc, createBucket, updateBucketAcl, deleteBucket,
    createAccessKey, createPresignedUrl]

/-- If a call passes the rules of an operation, each text argument is a text or missing, but for
those that are overlooked: there values of other types pass, and count as missing. -/
theorem texts_judged {t : Tool} (ht : t ∈ registry.all) {r : ArgumentRules} (hr : t.rules = some r)
    {key : String} (hkey : key ∈ textArguments r.operation) :
    if (r.operation, key) ∈ overlooked then r.Overlooks key else r.Insists key := by
  have hmem : r ∈ textRules := by
    rw [← textRules_eq_filter, List.mem_filter, List.mem_filterMap]
    refine ⟨⟨t, (mem_registry_iff t).mp ht, hr⟩, ?_⟩
    exact decide_eq_true (List.ne_nil_of_mem hkey)
  by_cases hover : (r.operation, key) ∈ overlooked
  · rw [if_pos hover]
    exact overlooks_of_mem hmem hover
  · rw [if_neg hover]
    obtain ⟨rule, hrule, hinsists⟩ := insisting_rule r hmem key hkey hover
    exact hinsists.of_mem hrule

/-- The target of a record has to be a text, but its name need not be. -/
theorem texts_judged_record :
    createDomainRecord.Insists "target" ∧ createDomainRecord.Overlooks "name" := by
  have hmem : dnsTools[4] ∈ dnsTools := List.getElem_mem _
  have ht : dnsTools[4] ∈ registry.all := (mem_registry_iff _).mpr (by simp [tools, hmem])
  have htarget : "target" ∈ textArguments createDomainRecord.operation := by decide
  have hname : "name" ∈ textArguments createDomainRecord.operation := by decide
  have hinsists := texts_judged ht rfl htarget
  have hoverlooks := texts_judged ht rfl hname
  rw [if_neg (by decide)] at hinsists
  rw [if_pos (by decide)] at hoverlooks
  exact ⟨hinsists, hoverlooks⟩

/-- Not all text arguments have to be texts: a number passes for a root password. -/
theorem texts_not_insisted :
    ¬ ∀ t ∈ registry.all, ∀ r ∈ t.rules, ∀ key ∈ textArguments r.operation, ∀ call,
      r.check call = .ok () → call.TextOrMissing key := by
  intro insisted
  let call : ToolCall := ⟨"create_instance",
    [("region", .str "us-east"), ("root_pass", .int 123456789012), ("type", .str "g6-nanode-1")]⟩
  have hmem : instanceTools[2] ∈ instanceTools := List.getElem_mem _
  have ht : instanceTools[2] ∈ registry.all := (mem_registry_iff _).mpr (by simp [tools, hmem])
  have hpass : createInstance.check call = .ok () := eq_ok_of_toBool (by decide +kernel)
  have htext := insisted _ ht createInstance rfl "root_pass" (by decide) call hpass
  simp [call, ToolCall.TextOrMissing, ToolCall.Lacks, ToolCall.get?, Fields.get?, Json.int] at htext

end Catalog

end CloudGate
