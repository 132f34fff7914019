import CloudGate.Proofs.Catalog.Duty
import CloudGate.Proofs.Invocation.Screen
import CloudGate.Proofs.Tool.Registry

/-!
Calls of the catalog's tools that pass the checks.

* `mem_registry_iff`: the registry holds every tool of the catalog, and nothing else.
* `request_meets_duties`: what is sent meets the duties of all parameters, and holds no argument but
  parameters unless the tool lists things.
-/

namespace CloudGate

namespace Catalog

/-! ## The tools of the registry -/

theorem tools_distinct : (tools.map (·.name)).Nodup := by decide

theorem mem_registry_iff (t : Tool) : t ∈ registry.all ↔ t ∈ tools := by
  have hall : registry.all = (Registry.empty.registerAll tools).all := by
    unfold registry Registry.all
    rw [Registry.tools_addAliases]
  rw [hall]
  constructor
  · intro h
    rcases Registry.mem_all_registerAll h with hmem | hmem
    · exact hmem
    · exact absurd hmem List.not_mem_nil
  · intro h
    exact Registry.mem_all_of_get? (Registry.get?_registerAll tools_distinct h Registry.empty)

theorem find?_of_mem {t : Tool} (ht : t ∈ tools) : registry.find? t.name = some t := by
  apply Registry.find?_of_get?
  rw [Registry.get?, registry, Registry.tools_addAliases]
  exact Registry.get?_registerAll tools_distinct ht Registry.empty

/-! ## Shapes -/

/-- The names that pass the check of the shape. -/
theorem hasParameter_of_checkShape {t : Tool} {call : ToolCall} (h : t.checkShape call = .ok ())
    (hlist : t.isList = false) {name : String} (hname : name ∈ call.arguments.names) :
    t.hasParameter name = true := by
  unfold Tool.checkShape at h
  split at h
  · contradiction
  · rw [if_neg (by simp [hlist])] at h
    split at h
    · contradiction
    · rename_i hfind
      simpa using List.find?_eq_none.mp hfind name hname

/-! ## Admitted calls -/

/-- The consent is no parameter with a duty. -/
theorem key_ne_confirm {operation : String} {p : Parameter} {d : Duty}
    (h : dutyOf operation p = some d) : p.name ≠ Gate.confirmName := by
  intro hname
  have hnone : dutyOf operation p = none := by
    unfold dutyOf
    rw [hname]
    rfl
  rw [hnone] at h
  contradiction

theorem met_of_screen {t : Tool} (ht : t ∈ registry.all) {call : ToolCall}
    (hpass : Invocation.screen t call = .ok ()) {d : String × Duty} (hd : d ∈ dutiesOf t) :
    d.2.Met call d.1 := by
  obtain ⟨-, -, hrules⟩ := (Invocation.screen_eq_ok t call).mp hpass
  have hcovered := tools_covered t ((mem_registry_iff t).mp ht)
  exact Duty.met_of_rule ((hcovered d hd).holds hrules)

/-- Whatever passes the checks meets the duties of the parameters when it is sent, and has no other
arguments unless it lists things. -/
theorem request_meets_duties {t : Tool} (ht : t ∈ registry.all) {call : ToolCall}
    (hpass : Invocation.screen t call = .ok ()) :
    (∀ p ∈ t.parameters, ∀ d ∈ dutyOf t.name p, d.Met (Invocation.request t call) p.name) ∧
      (t.isList = false → ∀ name ∈ (Invocation.request t call).arguments.names,
        t.hasParameter name = true) := by
  obtain ⟨-, hshape, -⟩ := (Invocation.screen_eq_ok t call).mp hpass
  constructor
  · intro p hp d hd
    have hmet := met_of_screen ht hpass (mem_dutiesOf hp hd)
    exact hmet.congr (Invocation.request_get?_of_ne t call (key_ne_confirm hd))
  · intro hlist name hname
    obtain ⟨q, hq, rfl⟩ := List.mem_map.mp hname
    exact hasParameter_of_checkShape hshape hlist
      (List.mem_map_of_mem (Fields.mem_of_mem_erase hq))

/-- A bucket is opened to readers. -/
theorem request_meets_duties_bucket :
    let t := bucketTools[2]
    let call : ToolCall :=
      ⟨"update_bucket_acl",
        [("acl", .str "public-read"), ("cluster", .str "us-east-1"), ("confirm", .bool true),
          ("label", .str "media-2024")]⟩
    t ∈ registry.all ∧ Invocation.screen t call = .ok () ∧
      (Invocation.request t call).Gives "cluster" Rule.RegionName ∧
      (Invocation.request t call).Gives "label" Rule.BucketName := by
  intro t call
  have hmem : t ∈ bucketTools := List.getElem_mem _
  have ht : t ∈ registry.all := (mem_registry_iff t).mpr (by simp [tools, hmem])
  have hpass : Invocation.screen t call = .ok () := eq_ok_of_toBool (by decide)
  have hmet := (request_meets_duties ht hpass).1
  exact ⟨ht, hpass, hmet cluster (by decide) .region (by decide),
    hmet bucket (by decide) .bucketName (by decide)⟩

end Catalog

end CloudGate
