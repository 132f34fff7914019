import CloudGate.Program
import CloudGate.Proofs.Catalog.Delivery
import CloudGate.Proofs.Json.Basic
import CloudGate.Proofs.Tool.Registration

/-!
What a dry run of an admitted call shows of its request.

* `isList_eq_isListing`: a dry run wraps its answer up exactly for the tools that have filters.
* `invoke_told`: so an admitted call succeeds, and its output is the description of its request, or
  an empty list if the tool lists things.
* `call_prints`: the command prints this result and sends nothing.
* `dryRun_told`: both together, for every admitted call of the catalog.
-/

namespace CloudGate

/-- Some text of the value is this text. -/
inductive Json.Mentions (text : String) : Json → Prop
  | here : Mentions text (.str text)
  | item {items : List Json} {v : Json} (hv : v ∈ items) (h : Mentions text v) :
    Mentions text (.arr items)
  | member {members : List (String × Json)} {p : String × Json} (hp : p ∈ members)
    (h : Mentions text p.2) : Mentions text (.obj members)

/-! ## Answers of a dry run -/

namespace Gateway.DryRun

/-- The message about a request that is not sent. -/
def notice (r : Request.Prepared) : LogLine :=
  ⟨.info, "dry run: " ++ r.method.name ++ " " ++ r.path⟩

theorem log_of_prepare {operation : String} {call : ToolCall} {r : Request.Prepared}
    (hr : Request.prepare operation call = .ok r) :
    (dryRun operation call).log = [notice r] := by
  simp only [dryRun, log, hr, notice]

/-- No answer of a dry run comes too late. -/
theorem isLate_dryRun (limitMs : Option Nat) (operation : String) (call : ToolCall) :
    Invocation.isLate limitMs (dryRun operation call) = false := by
  cases limitMs with
  | none => rfl
  | some limit => exact decide_eq_false (Nat.not_lt_zero limit)

/-- Behind the filters nothing is left of an answer that was wrapped up. -/
theorem resultOf_dispatch {t : Tool} (hlist : t.isList = isListing t.name) (call : ToolCall)
    {request : ToolCall} {r : Request.Prepared}
    (hr : Request.prepare t.name request = .ok r) :
    Invocation.resultOf t call (dispatch t.name request) =
      if t.isList then (ToolResult.succeeded t.name (.arr [])).withCounts 0 0
      else .succeeded t.name (describe t.name r) := by
  have hdispatch : dispatch t.name request =
      .ok (if t.isList then .object [("data", .arr []), ("request", describe t.name r)]
        else describe t.name r) := by
    rw [dispatch, hr, hlist]
    rfl
  rw [hdispatch]
  cases hwrapped : t.isList with
  | false => simp only [Invocation.resultOf, hwrapped, Bool.false_eq_true, ↓reduceIte]
  | true =>
    -- Of an object the filters get the items under `data`, and the request is not among them.
    have hitems : Invocation.itemsOf
        (.object [("data", .arr []), ("request", describe t.name r)]) = .ok [] := rfl
    simp only [Invocation.resultOf, hwrapped, ↓reduceIte, Invocation.filterList, hitems]
    rfl

end Gateway.DryRun

/-! ## Admitted calls of the catalog -/

/-- What comes of the dry run of a call with this request. -/
structure Invocation.Told (t : Tool) (r : Request.Prepared) (i : Invocation) : Prop where
  success : i.result.success = true
  shown : t.isList = false → ∃ output, i.result.output = some output ∧
    output.get? "method" = some (.str r.method.name) ∧ output.get? "path" = some (.str r.path)
  /-- A list tool has nothing to show. -/
  listed : t.isList = true → i.result.output = some (.arr []) ∧
    i.result.measures.totalItems = some 0 ∧ i.result.measures.returnedItems = some 0
  noticed : Gateway.DryRun.notice r ∈ i.log

namespace Catalog

theorem isList_eq_isListing : ∀ t ∈ tools, t.isList = Gateway.isListing t.name := by decide

theorem exists_prepared_of_find? {call : ToolCall} {t : Tool}
    (ht : registry.find? call.tool = some t) (hpass : Invocation.screen t call = .ok ()) :
    ∃ r, Request.prepare t.name (Invocation.request t call) = .ok r := by
  have hall := Registry.mem_all_of_find? ht
  have hserved := (tools_served t ((mem_registry_iff t).mp hall)).1
  obtain ⟨route, hroute⟩ := Option.isSome_iff_exists.mp hserved
  exact exists_prepared hall hpass hroute

theorem invoke_told {call : ToolCall} {t : Tool} (ht : registry.find? call.tool = some t)
    (hpass : Invocation.screen t call = .ok ()) {r : Request.Prepared}
    (hr : Request.prepare t.name (Invocation.request t call) = .ok r) (limitMs : Option Nat) :
    (registry.invoke limitMs Gateway.dryRun call).Told t r := by
  have hlist := isList_eq_isListing t ((mem_registry_iff t).mp (Registry.mem_all_of_find? ht))
  have hlate := Gateway.DryRun.isLate_dryRun limitMs t.name (Invocation.request t call)
  have hresult : (registry.invoke limitMs Gateway.dryRun call).result =
      (Invocation.resultOf t call
        (Gateway.DryRun.dispatch t.name (Invocation.request t call))).withDuration 0 := by
    rw [Registry.invoke_of_admitted ht hpass, Invocation.sent, Invocation.settle, hlate]
    rfl
  rw [Gateway.DryRun.resultOf_dispatch hlist call hr] at hresult
  exact
    { success := by
        rw [hresult]
        cases t.isList <;> rfl
      shown := by
        intro hother
        rw [hresult, hother]
        refine ⟨_, rfl, ?_, ?_⟩
        · simp [Gateway.DryRun.describe, Json.get?_object]
        · simp [Gateway.DryRun.describe, Json.get?_object]
      listed := by
        intro hlisting
        rw [hresult, hlisting]
        exact ⟨rfl, rfl, rfl⟩
      noticed := by
        rw [Registry.invoke_of_admitted ht hpass]
        simp [Invocation.sent, hlate, Gateway.DryRun.log_of_prepare hr] }

end Catalog

/-! ## The command -/

namespace Program

theorem openTrail_out (settings : Settings) (run : Run) :
    (openTrail settings run).1.out = run.out := by
  unfold openTrail
  split
  · rfl
  · simp only
    split
    · rfl
    · rfl

/-- A dry run prints the result of its call and sends nothing. -/
theorem call_prints (s : Surroundings) (settings : Settings) (choice : OutputChoice)
    (color : Bool) (asked : ToolCall) (run : Run) :
    let limitMs := Invocation.limitOfSeconds (some settings.provider.timeoutSeconds)
    let result := (Catalog.registry.invoke limitMs Gateway.dryRun asked).result
    let after := call s settings choice color asked true run
    after.requests = [] ∧ after.exitCode = (if result.success then 0 else 1) ∧
      after.out = run.out ++ (Console.render choice.format color result ++ "\n") := by
  intro limitMs result after
  refine ⟨rfl, rfl, ?_⟩
  rw [← openTrail_out settings run]
  rfl

end Program

namespace Catalog

/-- The dry run of an admitted call succeeds, sends nothing, and notes the request in a message. Its
output, which is what is printed, shows the method and the path of the request if the tool does not
list things. For a list tool it is an empty list, since the filters keep only the items of an
answer, and the request stands beside them. -/
theorem dryRun_told {call : ToolCall} {t : Tool} (ht : registry.find? call.tool = some t)
    (hpass : Invocation.screen t call = .ok ()) :
    ∃ r, Request.prepare t.name (Invocation.request t call) = .ok r ∧
      (∀ limitMs, (registry.invoke limitMs Gateway.dryRun call).Told t r) ∧
      ∀ s settings choice color run,
        let after := Program.call s settings choice color call true run
        after.requests = [] ∧ after.exitCode = 0 ∧ ∃ i : Invocation, i.Told t r ∧
          after.out = run.out ++ (Console.render choice.format color i.result ++ "\n") := by
  obtain ⟨r, hr⟩ := exists_prepared_of_find? ht hpass
  have htold := invoke_told ht hpass hr
  refine ⟨r, hr, htold, fun s settings choice color run => ?_⟩
  obtain ⟨hrequests, hexit, hout⟩ := Program.call_prints s settings choice color call run
  have hshown := htold (Invocation.limitOfSeconds (some settings.provider.timeoutSeconds))
  refine ⟨hrequests, ?_, _, hshown, hout⟩
  rw [hexit, hshown.success]
  rfl

/-- The dry run of a deletion shows its request. -/
theorem dryRun_told_volume :
    let t := volumeTools[5]
    let call : ToolCall :=
      ⟨"delete_volume", [("confirm", .bool true), ("volume_id", .str " +12 ")]⟩
    registry.find? call.tool = some t ∧ Invocation.screen t call = .ok () ∧
      ∃ r, Request.prepare t.name (Invocation.request t call) = .ok r ∧
        ∃ output, (registry.invoke none Gateway.dryRun call).result.output = some output ∧
          output.get? "method" = some (.str r.method.name) ∧
          output.get? "path" = some (.str r.path) := by
  intro t call
  have hvolume : t ∈ volumeTools := List.getElem_mem _
  have hmem : t ∈ tools := by simp [tools, hvolume]
  have ht : registry.find? call.tool = some t := find?_of_mem hmem
  have hpass : Invocation.screen t call = .ok () := eq_ok_of_toBool (by decide)
  obtain ⟨r, hr, htold, -⟩ := dryRun_told ht hpass
  exact ⟨ht, hpass, r, hr, (htold none).shown rfl⟩

/-- The dry run of a list tool shows nothing of its request. -/
theorem dryRun_shows_no_list :
    ¬ ∀ (call : ToolCall) (t : Tool) (limitMs : Option Nat),
      registry.find? call.tool = some t → Invocation.screen t call = .ok () →
        ∃ r output, Request.prepare t.name (Invocation.request t call) = .ok r ∧
          (registry.invoke limitMs Gateway.dryRun call).result.output = some output ∧
          output.Mentions r.method.name ∧ output.Mentions r.path := by
  intro h
  let t := volumeTools[0]
  let call : ToolCall := ⟨"list_volumes", []⟩
  have hvolume : t ∈ volumeTools := List.getElem_mem _
  have hmem : t ∈ tools := by simp [tools, hvolume]
  have ht : registry.find? call.tool = some t := find?_of_mem hmem
  have hpass : Invocation.screen t call = .ok () := eq_ok_of_toBool (by decide)
  obtain ⟨r, output, hr, houtput, hmethod, -⟩ := h call t none ht hpass
  have hempty := ((invoke_told ht hpass hr none).listed rfl).1
  rw [houtput] at hempty
  obtain rfl := Option.some.inj hempty
  cases hmethod with
  | item hv _ => contradiction

end Catalog

end CloudGate
