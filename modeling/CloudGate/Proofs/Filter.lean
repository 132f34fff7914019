import CloudGate.Proofs.Json.Basic
import CloudGate.Proofs.Text.Fold
import CloudGate.Proofs.Text.Sigma
import CloudGate.Tool.Definition

/-!
Filters of lists: which items they keep, and how filters go together.

* `holds_iff`: a filter keeps the items whose text under its field matches the query.
* `keeps_hits_iff`: a filter that looks for its query inside the texts finds it wherever it stands,
  exactly if the query settles the form of each of its capital sigmas.
* `selects_iff`: a call of a list tool keeps the items that match each of its queries.
* `selects_congr`: neither the order of its filters matters nor the case of its queries.
* `keep_eq_foldl`, `keep_keep`: filters may be applied one after another, and again.
-/

namespace CloudGate

open Text (fold containsFold)

/-! ## One filter -/

/-- The text matches the query, whatever the case of either. -/
def MatchMode.Accepts (mode : MatchMode) (value query : String) : Prop :=
  match mode with
  | .exact => fold value = fold query
  | .contains => (fold query).toList <:+: (fold value).toList

/-- The item has a text under the field, and it matches the query. -/
def Json.Matches (item : Json) (field query : String) (mode : MatchMode) : Prop :=
  ∃ value, item.get? field = some (.str value) ∧ mode.Accepts value query

namespace MatchMode

/-- Only the fold of a query matters. -/
theorem accepts_congr (mode : MatchMode) {query query' : String} (h : fold query = fold query')
    (value : String) : mode.Accepts value query ↔ mode.Accepts value query' := by
  simp only [Accepts, h]

/-- A query that is not empty matches no empty text. -/
theorem not_accepts_empty (mode : MatchMode) {query : String} (h : query ≠ "") :
    ¬ mode.Accepts "" query := by
  have hempty : fold "" = "" := Text.fold_eq_empty.mpr rfl
  intro haccepts
  refine h (Text.fold_eq_empty.mp ?_)
  cases mode with
  | exact => exact (haccepts.symm.trans hempty)
  | contains =>
    have hinfix : (fold query).toList <:+: (fold "").toList := haccepts
    rw [hempty] at hinfix
    exact String.toList_eq_nil_iff.mp (List.infix_nil.mp hinfix)

end MatchMode

theorem Json.matches_congr {item : Json} {field query query' : String} {mode : MatchMode}
    (h : fold query = fold query') :
    item.Matches field query mode ↔ item.Matches field query' mode :=
  exists_congr fun value => and_congr_right fun _ => mode.accepts_congr h value

namespace FieldFilter

theorem holds_eq (f : FieldFilter) (item : Json) :
    f.holds item = true ↔ f.mode.Accepts (textOf f.field item) f.query := by
  unfold holds MatchMode.Accepts
  cases f.mode with
  | exact => exact beq_iff_eq
  | contains =>
    simp only [fold, String.toList_ofList]
    exact Text.containsFold_iff _ _

/-- A missing field is matched by no query, and neither is a value that is no text. -/
theorem holds_iff {f : FieldFilter} (h : f.query ≠ "") (item : Json) :
    f.holds item = true ↔ item.Matches f.field f.query f.mode := by
  rw [holds_eq]
  unfold textOf Json.Matches
  have hnone := f.mode.not_accepts_empty h
  cases item.get? f.field with
  | none => simp [hnone]
  | some v => cases v <;> simp [Json.str?, hnone]

theorem ofQuery?_of_ne {query : String} (h : query ≠ "") (field : String) (mode : MatchMode) :
    ofQuery? field query mode = some { field, query, mode } := by
  have hempty : query.isEmpty = false := by simpa [String.isEmpty_iff] using h
  rw [ofQuery?, hempty, if_neg Bool.false_ne_true]

theorem ofQuery?_eq_some {field query : String} {mode : MatchMode} {f : FieldFilter} :
    ofQuery? field query mode = some f ↔ query ≠ "" ∧ f = { field, query, mode } := by
  by_cases h : query = ""
  · subst h
    simp [ofQuery?]
  · rw [ofQuery?_of_ne h, Option.some.injEq]
    exact ⟨fun heq => ⟨h, heq.symm⟩, fun heq => heq.2.symm⟩

/-- A filter that looks for its query inside the texts drops no item with the query in its text,
exactly if the query settles the form of each of its capital sigmas. -/
theorem keeps_hits_iff {query : String} (hquery : query ≠ "") (field : String) :
    ∃ f, ofQuery? field query .contains = some f ∧
      ((∀ (value : String) (item : Json), item.get? field = some (.str value) →
          query.toList <:+: value.toList →
          containsFold value query = true ∧ f.holds item = true) ↔
        Text.IsSettled query.toList) := by
  refine ⟨_, ofQuery?_of_ne hquery field .contains, ?_⟩
  have hholds : ∀ {value : String} {item : Json}, item.get? field = some (.str value) →
      holds { field, query, mode := .contains } item = containsFold value query := by
    intro value item hvalue
    simp [holds, textOf, hvalue, Json.str?]
  rw [← Text.containsFold_iff_settled]
  constructor
  · intro hkeeps text hin
    have hvalue : (Json.obj [(field, .str text)]).get? field = some (.str text) := by
      simp [Json.get?, Fields.get?]
    exact (hkeeps text _ hvalue hin).1
  · intro hfound value item hvalue hin
    have hhit := hfound value hin
    exact ⟨hhit, (hholds hvalue).trans hhit⟩

/-- The sigma at the end of the word is settled by the blank behind it. -/
theorem keeps_hits_street :
    let item : Json := .obj [("label", .str "ΚΗΦΙΣΟΣ, ΟΔΟΣ 5Β")]
    "ΟΔΟΣ 5" ≠ "" ∧ Text.IsSettled "ΟΔΟΣ 5".toList ∧
      ∃ f, ofQuery? "label" "ΟΔΟΣ 5" .contains = some f ∧ f.holds item = true := by
  intro item
  have hquery : "ΟΔΟΣ 5" ≠ "" := by decide
  have hsettled : Text.IsSettled "ΟΔΟΣ 5".toList := by decide +kernel
  have hin : "ΟΔΟΣ 5".toList <:+: "ΚΗΦΙΣΟΣ, ΟΔΟΣ 5Β".toList :=
    ⟨"ΚΗΦΙΣΟΣ, ".toList, ['Β'], by decide⟩
  obtain ⟨f, hf, hkeeps⟩ := keeps_hits_iff hquery "label"
  exact ⟨hquery, hsettled, f, hf, (hkeeps.mpr hsettled _ item rfl hin).2⟩

/-- Not every query is found wherever it stands: its last sigma is final, and the same sigma inside
a longer word is not. -/
theorem hit_missed :
    ¬ ∀ (field value query : String), query ≠ "" → query.toList <:+: value.toList →
      containsFold value query = true ∧ ∀ f, ofQuery? field query .contains = some f →
        ∀ item : Json, item.get? field = some (.str value) → f.holds item = true := by
  intro found
  have hin : "ΑΣ".toList <:+: "ΑΣΑ".toList := ⟨[], ['Α'], by decide⟩
  have hhit := (found "label" "ΑΣΑ" "ΑΣ" (by decide) hin).1
  have hmissed : containsFold "ΑΣΑ" "ΑΣ" = false := by decide +kernel
  rw [hmissed] at hhit
  contradiction

/-- In lowercase the same query is found. -/
example : containsFold "ΑΣΑ" "ασ" = true ∧ containsFold "ΑΣΑ" "ΑΣ" = false := by decide +kernel

end FieldFilter

/-! ## All filters of a tool -/

/-- The item matches each query that the call gives for a filter of the tool. An empty query is
none. -/
def Tool.Selects (t : Tool) (call : ToolCall) (item : Json) : Prop :=
  ∀ f ∈ t.filters, ∀ query, call.get? f.param = some (.str query) → query ≠ "" →
    item.Matches f.field query f.mode

namespace Tool

theorem text_eq_iff {call : ToolCall} {key query : String} (h : query ≠ "") :
    call.text key = query ↔ call.get? key = some (.str query) := by
  unfold ToolCall.text ToolCall.string?
  cases call.get? key with
  | none => simp [Ne.symm h]
  | some v => cases v <;> simp [Json.str?, Ne.symm h]

theorem selects_iff_text (t : Tool) (call : ToolCall) (item : Json) :
    t.Selects call item ↔ ∀ f ∈ t.filters, call.text f.param ≠ "" →
      item.Matches f.field (call.text f.param) f.mode := by
  refine forall_congr' fun f => imp_congr_right fun _ => ?_
  constructor
  · exact fun h hne => h _ ((text_eq_iff hne).mp rfl) hne
  · intro h query hquery hne
    rw [(text_eq_iff hne).mpr hquery] at h
    exact h hne

/-- The filters that a call asks for keep what it selects. -/
theorem selects_iff (t : Tool) (call : ToolCall) (item : Json) :
    FilterSet.holds (t.filtersFor call) item = true ↔ t.Selects call item := by
  simp only [selects_iff_text, FilterSet.holds, List.all_eq_true, filtersFor, List.mem_filterMap,
    FieldFilter.ofQuery?_eq_some]
  constructor
  · intro h f hf hne
    exact (FieldFilter.holds_iff (f := ⟨_, _, _⟩) hne item).mp (h _ ⟨f, hf, hne, rfl⟩)
  · rintro h g ⟨f, hf, hne, rfl⟩
    exact (FieldFilter.holds_iff hne item).mpr (h f hf hne)

instance (t : Tool) (call : ToolCall) (item : Json) : Decidable (t.Selects call item) :=
  decidable_of_iff _ (t.selects_iff call item)

theorem keep_filtersFor (t : Tool) (call : ToolCall) (items : List Json) :
    FilterSet.keep (t.filtersFor call) items = items.filter (t.Selects call ·) := by
  refine List.filter_congr fun item _ => ?_
  rw [Bool.eq_iff_iff, selects_iff, decide_eq_true_eq]

/-- Neither the order of the filters matters nor the case of the queries. -/
theorem selects_congr {t t' : Tool} {call call' : ToolCall} (hfilters : t'.filters.Perm t.filters)
    (hqueries : ∀ f ∈ t.filters, fold (call'.text f.param) = fold (call.text f.param))
    (item : Json) : t'.Selects call' item ↔ t.Selects call item := by
  rw [selects_iff_text, selects_iff_text]
  refine forall_congr' fun f => ?_
  rw [hfilters.mem_iff]
  refine imp_congr_right fun hf => ?_
  have hempty : call'.text f.param = "" ↔ call.text f.param = "" := by
    rw [← Text.fold_eq_empty, hqueries f hf, Text.fold_eq_empty]
  rw [Ne, hempty, Json.matches_congr (hqueries f hf)]

end Tool

/-! ## Filters together -/

namespace FilterSet

/-- Without filters all items stay. -/
theorem keep_nil (items : List Json) : keep [] items = items :=
  List.filter_eq_self.mpr fun _ _ => rfl

theorem keep_cons (f : FieldFilter) (filters : List FieldFilter) (items : List Json) :
    keep (f :: filters) items = keep filters (keep [f] items) := by
  unfold keep
  rw [List.filter_filter]
  refine List.filter_congr fun item _ => ?_
  simp [holds, Bool.and_comm]

/-- Filters that all have to match may be applied one after another. -/
theorem keep_eq_foldl (filters : List FieldFilter) (items : List Json) :
    keep filters items = filters.foldl (fun items f => keep [f] items) items := by
  induction filters generalizing items with
  | nil => exact keep_nil items
  | cons f rest ih => rw [keep_cons, ih, List.foldl_cons]

/-- What has been filtered is not changed by filtering again. -/
theorem keep_keep (filters : List FieldFilter) (items : List Json) :
    keep filters (keep filters items) = keep filters items := by
  simp only [keep, List.filter_filter, Bool.and_self]

end FilterSet

end CloudGate
