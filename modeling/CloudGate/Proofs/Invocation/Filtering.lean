import CloudGate.Proofs.Catalog.Admission
import CloudGate.Proofs.Filter
import CloudGate.Proofs.Invocation.Outcome

/-!
What a call of a list tool keeps of the items that it is answered with.

* `result_of_listing`: the items that match every query of the call, in their order, with the counts
  before and after.
* `listing_filtered`: so the result depends on nothing but the items, the filters in any order and
  the folds of the queries, and the filters may be applied one after another, and again.
-/

namespace CloudGate

/-- The result of a list tool that keeps some of the items. -/
def ToolResult.listed (tool : String) (durationMs : Nat) (items kept : List Json) : ToolResult :=
  { tool
    success := true
    output := some (.arr kept)
    error := none
    measures :=
      { durationMs := some durationMs
        totalItems := some items.length
        returnedItems := some kept.length } }

namespace Invocation

/-- A call of a list tool that passes the checks and is answered in time with a list of items, bare
or in an envelope. -/
structure Listing (r : Registry) (limitMs : Option Nat) (gateway : Gateway) (call : ToolCall)
    (t : Tool) (items : List Json) : Prop where
  found : r.find? call.tool = some t
  filters : t.filters ≠ []
  admitted : Admitted t call
  inTime : InTime limitMs (gateway t.name (request t call))
  answered : ∃ response, (gateway t.name (request t call)).outcome = .ok response ∧
    Lists response items

section

variable {r : Registry} {limitMs : Option Nat} {gateway : Gateway} {call : ToolCall} {t : Tool}
  {items : List Json}

theorem filterList_of_lists {response : Json} (h : Lists response items) (t : Tool)
    (call : ToolCall) (durationMs : Nat) :
    (filterList t call response).withDuration durationMs =
      .listed t.name durationMs items (FilterSet.keep (t.filtersFor call) items) := by
  unfold filterList
  rw [(itemsOf_eq_ok response items).mpr h]
  rfl

theorem result_of_listing (h : Listing r limitMs gateway call t items) :
    (r.invoke limitMs gateway call).result =
      .listed t.name (gateway t.name (request t call)).measuredMs items
        (FilterSet.keep (t.filtersFor call) items) := by
  obtain ⟨response, hreply, hitems⟩ := h.answered
  have hlate := (isLate_eq_false limitMs _).mpr h.inTime
  have hsettle : settle limitMs (gateway t.name (request t call)) = .ok response := by
    rw [settle, hlate, if_neg Bool.false_ne_true, hreply]
  rw [Registry.invoke_of_admitted h.found ((admitted_iff t call).mpr h.admitted)]
  show (resultOf t call (settle limitMs _)).withDuration _ = _
  rw [hsettle, resultOf_list ((isList_iff t).mpr h.filters), filterList_of_lists hitems]

end

/-- A list tool gives the items that match every query of the call, in the order of the provider,
and counts them before and after. The same items give the same list in either shape of the answer,
for the filters in any order, and for queries that differ at most in case. The filters may be
applied one after another, and what has been filtered is not changed by the same call. -/
theorem listing_filtered {r : Registry} {limitMs : Option Nat} {gateway : Gateway} {call : ToolCall}
    {t : Tool} {items : List Json} (h : Listing r limitMs gateway call t items) :
    let kept := items.filter (t.Selects call ·)
    (r.invoke limitMs gateway call).result =
        .listed t.name (gateway t.name (request t call)).measuredMs items kept ∧
      (∀ {r' limitMs' gateway' call' t'}, Listing r' limitMs' gateway' call' t' items →
        t'.filters.Perm t.filters →
        (∀ f ∈ t.filters, Text.fold (call'.text f.param) = Text.fold (call.text f.param)) →
        (r'.invoke limitMs' gateway' call').result =
          .listed t'.name (gateway' t'.name (request t' call')).measuredMs items kept) ∧
      (t.filtersFor call).foldl (fun items f => FilterSet.keep [f] items) items = kept ∧
      ∀ {limitMs' gateway'}, Listing r limitMs' gateway' call t kept →
        (r.invoke limitMs' gateway' call).result =
          .listed t.name (gateway' t.name (request t call)).measuredMs kept kept := by
  intro kept
  have hkept : FilterSet.keep (t.filtersFor call) items = kept := t.keep_filtersFor call items
  refine ⟨?_, ?_, ?_, ?_⟩
  · rw [result_of_listing h, hkept]
  · intro r' limitMs' gateway' call' t' h' hfilters hqueries
    have hsame : items.filter (t'.Selects call' ·) = kept :=
      List.filter_congr fun item _ =>
        decide_eq_decide.mpr (Tool.selects_congr hfilters hqueries item)
    rw [result_of_listing h', t'.keep_filtersFor, hsame]
  · rw [← FilterSet.keep_eq_foldl, hkept]
  · intro limitMs' gateway' h'
    rw [result_of_listing h', ← hkept, FilterSet.keep_keep]

/-- Zones by a part of their name, in any case. The answer comes in an envelope, and an item without
a name is dropped like one with another name. -/
theorem listing_filtered_zones :
    let call : ToolCall := ⟨"list_domains", [("domain", .str "Example"), ("type", .str "")]⟩
    let zone (name : String) : Json := .obj [("domain", .str name), ("type", .str "master")]
    let items := [zone "example.com", .obj [("id", .int 7)], zone "EXAMPLE.org", zone "exam.ple",
      zone "example.com"]
    let gateway : Gateway := fun _ _ =>
      { outcome := .ok (.obj [("data", .arr items), ("page", .int 1)]), measuredMs := 3 }
    (Catalog.registry.invoke none gateway call).result =
      .listed "list_domains" 3 items
        [zone "example.com", zone "EXAMPLE.org", zone "example.com"] := by
  intro call zone items gateway
  let t := Catalog.dnsTools[0]
  have hdomain : t ∈ Catalog.dnsTools := List.getElem_mem _
  have hmem : t ∈ Catalog.tools := by simp [Catalog.tools, hdomain]
  have hlisting : Listing Catalog.registry none gateway call t items :=
    { found := Catalog.find?_of_mem hmem
      filters := by decide +kernel
      admitted := (admitted_iff t call).mp (eq_ok_of_toBool (by decide +kernel))
      inTime := fun _ h => absurd h (Option.some_ne_none _).symm
      answered := ⟨_, rfl, .envelope rfl⟩ }
  have hfirst : t.Selects call (zone "example.com") := by decide +kernel
  have hcase : t.Selects call (zone "EXAMPLE.org") := by decide +kernel
  have hnameless : ¬ t.Selects call (.obj [("id", .int 7)]) := by decide +kernel
  have hother : ¬ t.Selects call (zone "exam.ple") := by decide +kernel
  have hkept : items.filter (t.Selects call ·) =
      [zone "example.com", zone "EXAMPLE.org", zone "example.com"] := by
    simp only [items, List.filter_cons, List.filter_nil, hfirst, hcase, hnameless, hother,
      decide_true, decide_false, Bool.false_eq_true, ↓reduceIte]
  have hresult := (listing_filtered hlisting).1
  rw [hkept] at hresult
  exact hresult

end Invocation

end CloudGate
