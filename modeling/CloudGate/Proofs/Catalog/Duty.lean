import CloudGate.Catalog.Default
import CloudGate.Proofs.Operation.Argument
import CloudGate.Request.Prepared

/-!
What the arguments of the catalog's tools have to be. Each parameter has a duty by its name and the
operation it belongs to, and the rules of every tool see to the duties of its parameters.

* `Duty.met_of_rule`: the rule for a duty lets only calls pass that meet it.
* `tools_covered`: no tool of the catalog leaves out the rule for a duty.
-/

namespace CloudGate.Catalog

inductive Duty
  | identifier
  | region
  | bucketName
  | resourceName (optional : Bool)
  | volumeSize
  | acl (optional : Bool)
  | policy (optional : Bool)
  | method
  | expiry
  | ttl
  deriving DecidableEq

/-- The operations whose label names a bucket. -/
def bucketOperations : List String :=
  ["create_bucket", "update_bucket_acl", "delete_bucket", "create_presigned_url"]

/-- The operations whose label names another resource, and those that can do without it. -/
def labelOperations : List String := ["create_volume", "create_firewall", "create_vpc"]

def optionalLabelOperations : List String :=
  ["create_instance", "update_firewall", "create_load_balancer"]

def dutyOfLabel (operation : String) : Option Duty :=
  if operation ∈ bucketOperations then some .bucketName
  else if operation ∈ labelOperations then some (.resourceName false)
  else if operation ∈ optionalLabelOperations then some (.resourceName true)
  else none

def dutyOf (operation : String) (p : Parameter) : Option Duty :=
  if Request.isIdentifierName p.name then if p.required then some .identifier else none
  else if p.name = "cluster" ∨ p.name = "region" then if p.required then some .region else none
  else if p.name = "label" then dutyOfLabel operation
  else if p.name = "size" then some .volumeSize
  else if p.name = "acl" then some (.acl !p.required)
  else if p.name = "inbound_policy" ∨ p.name = "outbound_policy" then some (.policy !p.required)
  else if p.name = "method" then some .method
  else if p.name = "expires_in" then some .expiry
  else if p.name = "ttl_sec" then some .ttl
  else none

namespace Duty

/-- The rule that sees to a duty. -/
def rule (key : String) : Duty → Operation.ArgumentRule
  | identifier => Operation.identifier key
  | region => Operation.region key
  | bucketName => Operation.textual key Rule.bucketLabel
  | resourceName false => Operation.textual key Rule.resourceLabel
  | resourceName true => Operation.optionalText key Rule.resourceLabel
  | volumeSize => Operation.integer key Rule.volumeSize
  | acl false => Operation.textual key Rule.bucketAcl
  | acl true => Operation.optionalText key Rule.bucketAcl
  | policy false => Operation.policy key
  | policy true => Operation.optionalText key Rule.firewallPolicy
  | method => Operation.optionalText key Rule.presignedMethod
  | expiry => Operation.optionalInteger key Rule.presignedExpiry
  | ttl => Operation.optionalInteger key Rule.ttl

/-- What the duty asks of the argument. -/
def Met (call : ToolCall) (key : String) : Duty → Prop
  | identifier => call.Counts key (0 < ·)
  | region => call.Gives key Rule.RegionName
  | bucketName => call.Gives key Rule.BucketName
  | resourceName optional => optional ∧ call.Lacks key ∨ call.Gives key Rule.ResourceName
  | volumeSize => call.Counts key fun n => 10 ≤ n ∧ n ≤ 10240
  | acl optional => optional ∧ call.Lacks key ∨ call.Gives key (· ∈ Rule.bucketAcls)
  | policy optional =>
    optional ∧ call.Lacks key ∨
      call.Gives key fun s => ∃ word ∈ ["ACCEPT", "DROP"], Text.SameSpelling s word
  | method =>
    call.Lacks key ∨ call.Gives key fun s => ∃ word ∈ ["GET", "PUT"], Text.SameSpelling s word
  | expiry => call.Lacks key ∨ call.Counts key fun n => 1 ≤ n ∧ n ≤ 604800
  | ttl => call.Lacks key ∨ call.Counts key fun n => n = 0 ∨ (30 ≤ n ∧ n ≤ 604800)

theorem met_of_rule {key : String} {d : Duty} {call : ToolCall} (h : d.rule key call = .ok ()) :
    d.Met call key := by
  cases d with
  | identifier => exact (Operation.identifier_eq_ok key call).mp h
  | region => exact (Operation.region_eq_ok key call).mp h
  | bucketName =>
    have h : Operation.textual key Rule.bucketLabel call = .ok () := h
    exact Operation.gives_of_textual (fun s => (Rule.bucketLabel_eq_ok s).mp)
      (by simp [Rule.bucketLabel]) h
  | resourceName optional =>
    have hrule := fun s => (Rule.resourceLabel_eq_ok s).mp
    cases optional with
    | false => exact Or.inr (Operation.gives_of_textual hrule (by simp [Rule.resourceLabel]) h)
    | true => exact (Operation.gives_of_optionalText hrule h).imp_left fun hlacks => ⟨rfl, hlacks⟩
  | volumeSize =>
    obtain ⟨n, hn, hsize⟩ := (Operation.integer_eq_ok key _ call).mp h
    exact ⟨n, hn, (Rule.volumeSize_eq_ok n).mp hsize⟩
  | acl optional =>
    have hrule := fun s => (Rule.bucketAcl_eq_ok s).mp
    cases optional with
    | false =>
      have hempty : Rule.bucketAcl "" ≠ .ok () := by simp [Rule.bucketAcl_eq_ok, Rule.bucketAcls]
      exact Or.inr (Operation.gives_of_textual hrule hempty h)
    | true => exact (Operation.gives_of_optionalText hrule h).imp_left fun hlacks => ⟨rfl, hlacks⟩
  | policy optional =>
    have hrule := fun s => (Rule.firewallPolicy_eq_ok s).mp
    cases optional with
    | false =>
      have h : Operation.policy key call = .ok () := h
      unfold Operation.policy at h
      exact Or.inr (Operation.gives_of_textual
        (fun s hs => hrule s (Verdict.reject_eq_ok.mp hs).2) (by simp [Text.isBlankText]) h)
    | true => exact (Operation.gives_of_optionalText hrule h).imp_left fun hlacks => ⟨rfl, hlacks⟩
  | method => exact Operation.gives_of_optionalText (fun s => (Rule.presignedMethod_eq_ok s).mp) h
  | expiry =>
    rcases (Operation.optionalInteger_eq_ok key _ call).mp h with hlacks | ⟨n, hn, hexpiry⟩
    · exact Or.inl hlacks
    · exact Or.inr ⟨n, hn, (Rule.presignedExpiry_eq_ok n).mp hexpiry⟩
  | ttl =>
    rcases (Operation.optionalInteger_eq_ok key _ call).mp h with hlacks | ⟨n, hn, httl⟩
    · exact Or.inl hlacks
    · exact Or.inr ⟨n, hn, (Rule.ttl_eq_ok n).mp httl⟩

/-- A duty looks at nothing but its argument. -/
theorem Met.congr {call call' : ToolCall} {key : String} {d : Duty} (h : d.Met call key)
    (hget : call'.get? key = call.get? key) : d.Met call' key := by
  have hint : call'.int? key = call.int? key := by simp only [ToolCall.int?, hget]
  cases d <;> simpa only [Met, ToolCall.Counts, ToolCall.Gives, ToolCall.Lacks, hint, hget] using h

end Duty

/-- The duties of the parameters of a tool. -/
def dutiesOf (t : Tool) : List (String × Duty) :=
  t.parameters.filterMap fun p => (dutyOf t.name p).map fun d => (p.name, d)

/-- The rules of the tool see to the duties of its parameters. -/
def Covered (t : Tool) : Prop := ∀ d ∈ dutiesOf t, t.Enforces (d.2.rule d.1)

theorem mem_dutiesOf {t : Tool} {p : Parameter} {d : Duty} (hp : p ∈ t.parameters)
    (hd : dutyOf t.name p = some d) : (p.name, d) ∈ dutiesOf t :=
  List.mem_filterMap.mpr ⟨p, hp, by rw [hd]; rfl⟩

/-! ## The tools of the catalog -/

theorem covered_of_rules {t : Tool} {r : ArgumentRules} (duties : List (String × Duty))
    (hr : t.rules = some r) (hd : dutiesOf t = duties)
    (h : ∀ d ∈ duties, d.2.rule d.1 ∈ r.rules) : Covered t := by
  intro d hmem
  rw [hd] at hmem
  exact ⟨r, hr, h d hmem⟩

/-- Tools that list everything have no duties, and no rules either. -/
theorem covered_of_free {t : Tool} (hd : dutiesOf t = []) : Covered t := by
  intro d hmem
  rw [hd] at hmem
  contradiction

theorem instanceTools_covered : ∀ t ∈ instanceTools, Covered t := by
  simp only [instanceTools, List.forall_mem_cons]
  exact ⟨covered_of_free rfl,
    covered_of_rules [("instance_id", .identifier)] rfl rfl
      (by simp [Duty.rule, Operation.getInstance]),
    covered_of_rules [("region", .region), ("label", .resourceName true)] rfl rfl
      (by simp [Duty.rule, Operation.createInstance]),
    covered_of_rules [("instance_id", .identifier)] rfl rfl
      (by simp [Duty.rule, Operation.deleteInstance]),
    covered_of_rules [("instance_id", .identifier)] rfl rfl
      (by simp [Duty.rule, Operation.rebootInstance]),
    covered_of_rules [("instance_id", .identifier)] rfl rfl
      (by simp [Duty.rule, Operation.shutdownInstance]),
    covered_of_rules [("instance_id", .identifier)] rfl rfl
      (by simp [Duty.rule, Operation.resizeInstance]),
    List.forall_mem_nil _⟩

theorem sshKeyTools_covered : ∀ t ∈ sshKeyTools, Covered t := by
  simp only [sshKeyTools, List.forall_mem_cons]
  exact ⟨covered_of_free rfl,
    covered_of_rules [] rfl rfl
      (by simp [Duty.rule, Operation.createSshKey]),
    covered_of_rules [("ssh_key_id", .identifier)] rfl rfl
      (by simp [Duty.rule, Operation.deleteSshKey]),
    List.forall_mem_nil _⟩

theorem volumeTools_covered : ∀ t ∈ volumeTools, Covered t := by
  simp only [volumeTools, List.forall_mem_cons]
  exact ⟨covered_of_free rfl,
    covered_of_rules
      [("label", .resourceName false), ("size", .volumeSize)] rfl rfl
      (by simp [Duty.rule, Operation.createVolume]),
    covered_of_rules [("volume_id", .identifier), ("size", .volumeSize)] rfl rfl
      (by simp [Duty.rule, Operation.resizeVolume]),
    covered_of_rules
      [("volume_id", .identifier), ("instance_id", .identifier)] rfl rfl
      (by simp [Duty.rule, Operation.attachVolume]),
    covered_of_rules [("volume_id", .identifier)] rfl rfl
      (by simp [Duty.rule, Operation.detachVolume]),
    covered_of_rules [("volume_id", .identifier)] rfl rfl
      (by simp [Duty.rule, Operation.deleteVolume]),
    List.forall_mem_nil _⟩

theorem dnsTools_covered : ∀ t ∈ dnsTools, Covered t := by
  simp only [dnsTools, List.forall_mem_cons]
  exact ⟨covered_of_free rfl,
    covered_of_rules [] rfl rfl
      (by simp [Duty.rule, Operation.createDomain]),
    covered_of_rules [("domain_id", .identifier)] rfl rfl
      (by simp [Duty.rule, Operation.deleteDomain]),
    covered_of_rules [("domain_id", .identifier)] rfl rfl
      (by simp [Duty.rule, Operation.listDomainRecords]),
    covered_of_rules [("domain_id", .identifier), ("ttl_sec", .ttl)] rfl rfl
      (by simp [Duty.rule, Operation.createDomainRecord]),
    covered_of_rules
      [("domain_id", .identifier), ("record_id", .identifier), ("ttl_sec", .ttl)] rfl rfl
      (by simp [Duty.rule, Operation.updateDomainRecord]),
    covered_of_rules
      [("domain_id", .identifier), ("record_id", .identifier)] rfl rfl
      (by simp [Duty.rule, Operation.deleteDomainRecord]),
    List.forall_mem_nil _⟩

theorem firewallTools_covered : ∀ t ∈ firewallTools, Covered t := by
  simp only [firewallTools, List.forall_mem_cons]
  exact ⟨covered_of_free rfl,
    covered_of_rules
      [("label", .resourceName false), ("inbound_policy", .policy false),
        ("outbound_policy", .policy false)] rfl rfl
      (by simp [Duty.rule, Operation.createFirewall]),
    covered_of_rules
      [("firewall_id", .identifier), ("label", .resourceName true),
        ("inbound_policy", .policy true), ("outbound_policy", .policy true)] rfl rfl
      (by simp [Duty.rule, Operation.updateFirewall]),
    covered_of_rules [("firewall_id", .identifier)] rfl rfl
      (by simp [Duty.rule, Operation.deleteFirewall]),
    List.forall_mem_nil _⟩

theorem loadBalancerTools_covered : ∀ t ∈ loadBalancerTools, Covered t := by
  simp only [loadBalancerTools, List.forall_mem_cons]
  exact ⟨covered_of_free rfl,
    covered_of_rules [("region", .region), ("label", .resourceName true)] rfl rfl
      (by simp [Duty.rule, Operation.createLoadBalancer]),
    covered_of_rules [("load_balancer_id", .identifier)] rfl rfl
      (by simp [Duty.rule, Operation.deleteLoadBalancer]),
    List.forall_mem_nil _⟩

theorem vpcTools_covered : ∀ t ∈ vpcTools, Covered t := by
  simp only [vpcTools, List.forall_mem_cons]
  exact ⟨covered_of_free rfl,
    covered_of_rules [("label", .resourceName false), ("region", .region)] rfl rfl
      (by simp [Duty.rule, Operation.createVpc]),
    covered_of_rules [("vpc_id", .identifier)] rfl rfl
      (by simp [Duty.rule, Operation.deleteVpc]),
    List.forall_mem_nil _⟩

theorem bucketTools_covered : ∀ t ∈ bucketTools, Covered t := by
  simp only [bucketTools, List.forall_mem_cons]
  exact ⟨covered_of_free rfl,
    covered_of_rules
      [("label", .bucketName), ("cluster", .region), ("acl", .acl true)] rfl rfl
      (by simp [Duty.rule, Operation.createBucket]),
    covered_of_rules
      [("cluster", .region), ("label", .bucketName), ("acl", .acl false)] rfl rfl
      (by simp [Duty.rule, Operation.updateBucketAcl]),
    covered_of_rules [("cluster", .region), ("label", .bucketName)] rfl rfl
      (by simp [Duty.rule, Operation.deleteBucket]),
    List.forall_mem_nil _⟩

theorem accessKeyTools_covered : ∀ t ∈ accessKeyTools, Covered t := by
  simp only [accessKeyTools, List.forall_mem_cons]
  exact ⟨covered_of_free rfl,
    covered_of_rules [] rfl rfl
      (by simp [Duty.rule, Operation.createAccessKey]),
    covered_of_rules [("access_key_id", .identifier)] rfl rfl
      (by simp [Duty.rule, Operation.deleteAccessKey]),
    List.forall_mem_nil _⟩

theorem presignedTools_covered : ∀ t ∈ presignedTools, Covered t := by
  simp only [presignedTools, List.forall_mem_cons]
  exact ⟨covered_of_rules
      [("cluster", .region), ("label", .bucketName), ("method", .method),
        ("expires_in", .expiry)] rfl rfl
      (by simp [Duty.rule, Operation.createPresignedUrl]),
    List.forall_mem_nil _⟩

theorem tools_covered : ∀ t ∈ tools, Covered t := by
  simp only [tools, List.forall_mem_append]
  exact ⟨⟨⟨⟨⟨⟨⟨⟨⟨instanceTools_covered, sshKeyTools_covered⟩, volumeTools_covered⟩,
    dnsTools_covered⟩, firewallTools_covered⟩, loadBalancerTools_covered⟩, vpcTools_covered⟩,
    bucketTools_covered⟩, accessKeyTools_covered⟩, presignedTools_covered⟩

end CloudGate.Catalog
