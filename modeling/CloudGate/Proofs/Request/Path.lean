import CloudGate.Proofs.Fields
import CloudGate.Proofs.Text.Percent
import CloudGate.Proofs.Text.Split
import CloudGate.Proofs.Tool.Numeral
import CloudGate.Proofs.Verdict
import CloudGate.Request.Prepared
import Mathlib.Data.List.Forall2

/-!
The paths of requests. Whatever the arguments are, they stay within the places that the route has
for them.

* `fillArgument_fills`: one place takes one harmless piece that tells the argument apart.
* `fillPath_fills`: places of different names do not get in each other's way.
* `prepare_path`: the path of a request falls into the pieces of its template.
-/

namespace CloudGate.Request

open Text

/-! ## Pieces -/

/-- A piece of a path that is one segment of it, wherever it stands and whoever reads it. -/
structure SafePiece (piece : List Char) : Prop where
  nonempty : piece ≠ []
  current : piece ≠ ['.']
  parent : piece ≠ ['.', '.']
  plain : ∀ c ∈ piece, c ≠ '/' ∧ c ≠ '?' ∧ c ≠ '#'
  escapes : ∀ before after, piece = before ++ '%' :: after →
    ∃ a b rest, after = a :: b :: rest ∧ (Net.hexDigitValue? a).isSome = true ∧
      (Net.hexDigitValue? b).isSome = true

theorem safePiece_of_escaped {piece : List Char} (h : Escaped piece) (hempty : piece ≠ [])
    (hcurrent : piece ≠ ['.']) (hparent : piece ≠ ['.', '.']) : SafePiece piece where
  nonempty := hempty
  current := hcurrent
  parent := hparent
  plain := by
    have hslash := h.not_mem (d := '/') (by decide) (by decide)
    have hquery := h.not_mem (d := '?') (by decide) (by decide)
    have hfragment := h.not_mem (d := '#') (by decide) (by decide)
    intro c hc
    exact ⟨ne_of_mem_of_not_mem hc hslash, ne_of_mem_of_not_mem hc hquery,
      ne_of_mem_of_not_mem hc hfragment⟩
  escapes := h.percent

theorem percentEncode_safe {cs : List Char} (hempty : cs ≠ []) (hcurrent : cs ≠ ['.'])
    (hparent : cs ≠ ['.', '.']) : SafePiece (percentEncode cs) :=
  safePiece_of_escaped (percentEncode_escaped cs) (fun h => hempty (percentEncode_injective h))
    (fun h => hcurrent (percentEncode_injective h)) (fun h => hparent (percentEncode_injective h))

theorem numeral_safe (n : Int) : SafePiece (toString n).toList := by
  have hunreserved : ∀ c ∈ (toString n).toList, isUnreserved c = true := by
    intro c hc
    rcases numeral_char hc with hdigit | rfl
    · exact isUnreserved_of_isDigit hdigit
    · rfl
  have hdot : '.' ∉ (toString n).toList := by
    intro hmem
    rcases numeral_char hmem with hdigit | hminus
    · exact absurd hdigit (by decide)
    · exact absurd hminus (by decide)
  rw [← percentEncode_of_unreserved hunreserved]
  refine percentEncode_safe (numeral_ne_nil n) ?_ ?_
  · intro h
    exact hdot (h ▸ List.mem_singleton.mpr rfl)
  · intro h
    exact hdot (h ▸ List.mem_cons_self ..)

/-! ## Texts of arguments -/

theorem signed_ne_empty (negative : Bool) {cs : List Char} (h : cs ≠ []) :
    Decimal.signed negative cs ≠ "" := by
  unfold Decimal.signed
  rw [Ne, ← String.toList_inj, String.toList_ofList]
  split
  · exact List.cons_ne_nil _ _
  · exact h

theorem positional_ne_nil {digits : List Char} (h : digits ≠ []) (point : Int) (fraction : Bool) :
    Decimal.positional digits point fraction ≠ [] := by
  unfold Decimal.positional
  split
  · simp
  · simp only
    split
    · simp [h]
    · simp

theorem render_ne_empty (n : Json.Number) : n.render ≠ "" := by
  cases n with
  | int n =>
    intro h
    exact numeral_ne_nil n (String.toList_inj.mpr h)
  | real x =>
    show x.render ≠ ""
    unfold Decimal.Binary64.render
    split
    · exact signed_ne_empty _ (List.cons_ne_nil _ _)
    · simp only
      split
      · exact signed_ne_empty _ (positional_ne_nil Nat.toDigits_ne_nil _ _)
      · exact signed_ne_empty _ (by simp [Decimal.scientific])

theorem segmentText?_ne_empty {value : Option Json} {text : String}
    (h : segmentText? value = some text) : text ≠ "" := by
  unfold segmentText? at h
  split at h
  · split at h
    · contradiction
    · rename_i s hs
      obtain rfl := Option.some.inj h
      exact fun hempty => hs (String.isEmpty_iff.mpr hempty)
  · rename_i n
    obtain rfl := Option.some.inj h
    exact render_ne_empty n
  · contradiction

/-! ## Places -/

/-- The segment as it stands in the template. -/
def Segment.text : Segment → String
  | .literal text => text
  | .argument name => "\x7b" ++ name ++ "\x7d"

/-- What stands in a path for a segment of its route. -/
def Segment.Fills (call : ToolCall) : Segment → List Char → Prop
  | .literal text, piece => piece = text.toList
  | .argument name, piece =>
    SafePiece piece ∧ ∃ text, segmentText? (call.get? name) = some text ∧
      if isIdentifierName name then
        ∃ n, parseInt64? (trimChars text.toList) = some n ∧ piece = (toString n).toList
      else Net.Host.percentDecode? piece = some text.toList

theorem fillArgument_fills {call : ToolCall} {name s : String}
    (h : fillArgument name (call.get? name) = .ok s) :
    (Segment.argument name).Fills call s.toList := by
  unfold fillArgument at h
  unfold Segment.Fills
  cases htext : segmentText? (call.get? name) with
  | none => simp [htext] at h
  | some text =>
    simp only [htext] at h
    by_cases hid : isIdentifierName name = true
    · simp only [hid, ↓reduceIte] at h ⊢
      cases hn : parseInt64? (trimChars text.toList) with
      | none => simp [hn] at h
      | some n =>
        simp only [hn, Except.ok.injEq] at h
        subst h
        exact ⟨numeral_safe n, text, htext, n, hn, rfl⟩
    · simp only [hid, Bool.false_eq_true, ↓reduceIte] at h ⊢
      split at h
      · contradiction
      · rename_i hdots
        rw [not_or] at hdots
        obtain rfl := Except.ok.inj h
        rw [String.toList_ofList]
        have hempty := segmentText?_ne_empty htext
        refine ⟨percentEncode_safe ?_ ?_ ?_, text, htext, percentDecode?_percentEncode _⟩
        · exact fun hnil => hempty (String.toList_inj.mp hnil)
        · exact fun hdot => hdots.1 (String.toList_inj.mp hdot)
        · exact fun hdot => hdots.2 (String.toList_inj.mp hdot)

theorem Segment.Fills.no_slash {call : ToolCall} {segment : Segment} {piece : List Char}
    (h : segment.Fills call piece) (hsegment : '/' ∉ segment.text.toList) : '/' ∉ piece := by
  cases segment with
  | literal text =>
    have hpiece : piece = text.toList := h
    rw [hpiece]
    exact hsegment
  | argument name =>
    obtain ⟨hsafe, -⟩ := h
    exact fun hmem => (hsafe.plain '/' hmem).1 rfl

/-- Taking an argument away leaves those that other places ask for. -/
theorem agree_erase {call : ToolCall} {name : String} {rest : List Segment}
    (hnew : .argument name ∉ rest) {arguments : Fields Json}
    (hagree : ∀ other, .argument other ∈ rest → arguments.get? other = call.get? other) :
    ∀ other, .argument other ∈ rest →
      (arguments.erase name).get? other = call.get? other := by
  intro other hother
  have hne : other ≠ name := by
    rintro rfl
    exact hnew hother
  rw [Fields.get?_erase_of_ne arguments hne, hagree other hother]

/-- Every place takes its own argument, because no argument is asked for twice. -/
theorem fillPath_fills {call : ToolCall} {path : List Segment} (hdistinct : path.Nodup)
    {arguments left : Fields Json} {segments : List String}
    (hagree : ∀ name, .argument name ∈ path → arguments.get? name = call.get? name)
    (h : fillPath path arguments = .ok (segments, left)) :
    List.Forall₂ (fun segment s => segment.Fills call s.toList) path segments := by
  induction path generalizing arguments segments left with
  | nil =>
    obtain ⟨rfl, -⟩ := Prod.mk.inj (Except.ok.inj h)
    exact .nil
  | cons segment rest ih =>
    obtain ⟨hnew, hrest⟩ := List.nodup_cons.mp hdistinct
    have hagree' : ∀ name, .argument name ∈ rest → arguments.get? name = call.get? name :=
      fun name hname => hagree name (List.mem_cons_of_mem _ hname)
    cases segment with
    | literal text =>
      obtain ⟨⟨more, left'⟩, hmore, hok⟩ := bind_eq_ok.mp h
      obtain ⟨rfl, -⟩ := Prod.mk.inj (Except.ok.inj hok)
      exact .cons rfl (ih hrest hagree' hmore)
    | argument name =>
      obtain ⟨s, hs, h⟩ := bind_eq_ok.mp h
      obtain ⟨⟨more, left'⟩, hmore, hok⟩ := bind_eq_ok.mp h
      obtain ⟨rfl, -⟩ := Prod.mk.inj (Except.ok.inj hok)
      rw [hagree name (List.mem_cons_self ..)] at hs
      exact .cons (fillArgument_fills hs) (ih hrest (agree_erase hnew hagree') hmore)

/-! ## Routes -/

/-- No segment stands twice in the path, and none has a slash in it. -/
def Route.Proper (r : Route) : Prop :=
  r.path.Nodup ∧ ∀ segment ∈ r.path, '/' ∉ segment.text.toList

theorem routes_proper : ∀ p ∈ routes, p.2.Proper := by
  unfold Route.Proper
  decide

theorem mem_routes_of_routeOf? {operation : String} {route : Route}
    (h : routeOf? operation = some route) : (operation, route) ∈ routes := by
  obtain ⟨p, hp, rfl⟩ := Option.map_eq_some_iff.mp h
  have hname := List.find?_some hp
  simp only [beq_iff_eq] at hname
  subst hname
  exact List.mem_of_find?_eq_some hp

theorem toList_joinPath (segments : List String) :
    (joinPath segments).toList = (segments.map String.toList).flatMap ('/' :: ·) := by
  simp only [joinPath, String.toList_join, List.flatMap_map, String.toList_append]
  rfl

theorem template_eq_joinPath (r : Route) : r.template = joinPath (r.path.map Segment.text) := by
  unfold Route.template joinPath
  rw [List.map_map]
  congr 1
  refine List.map_congr_left fun segment _ => ?_
  cases segment with
  | literal text => rfl
  | argument name =>
    show "/\x7b" ++ name ++ "\x7d" = "/" ++ ("\x7b" ++ name ++ "\x7d")
    rw [← String.append_assoc, ← String.append_assoc]
    rfl

theorem splitBy_template {r : Route} (h : r.Proper) :
    splitBy '/' r.template.toList = [] :: r.path.map fun segment => segment.text.toList := by
  rw [template_eq_joinPath, toList_joinPath, List.map_map]
  exact splitBy_flatMap _ (List.forall_mem_map.mpr h.2)

theorem no_slash_of_fills {call : ToolCall} {path : List Segment} {segments : List String}
    (hpath : ∀ segment ∈ path, '/' ∉ segment.text.toList)
    (h : List.Forall₂ (fun segment s => segment.Fills call s.toList) path segments) :
    ∀ s ∈ segments, '/' ∉ s.toList := by
  induction h with
  | nil => exact List.forall_mem_nil _
  | cons hfirst _ ih =>
    obtain ⟨hsegment, hrest⟩ := List.forall_mem_cons.mp hpath
    exact List.forall_mem_cons.mpr ⟨hfirst.no_slash hsegment, ih hrest⟩

theorem splitBy_path {call : ToolCall} {r : Route} (h : r.Proper) {segments : List String}
    (hfills : List.Forall₂ (fun segment s => segment.Fills call s.toList) r.path segments) :
    splitBy '/' (joinPath segments).toList = [] :: segments.map String.toList := by
  rw [toList_joinPath]
  exact splitBy_flatMap _ (List.forall_mem_map.mpr (no_slash_of_fills h.2 hfills))

/-! ## Requests -/

/-- Only the grants of a new access key are changed beforehand, and they have no place in a path. -/
theorem prepare_eq {operation : String} {route : Route} (hroute : routeOf? operation = some route)
    (call : ToolCall) :
    (operation = "create_access_key" ∧
      ∃ e, normalizeGrants call = .error e ∧ prepare operation call = .error e) ∨
      ∃ arguments, prepare operation call = route.prepare arguments ∧
        ∀ name, .argument name ∈ route.path → arguments.get? name = call.get? name := by
  unfold prepare
  simp only [hroute]
  split
  · rename_i hkey
    subst hkey
    have hpath : route.path = accessKeys := by
      have hknown : (routeOf? "create_access_key").map (·.path) = some accessKeys := by decide
      rw [hroute] at hknown
      exact Option.some.inj hknown
    cases hgrants : normalizeGrants call with
    | error e => exact Or.inl ⟨rfl, e, rfl, rfl⟩
    | ok arguments =>
      refine Or.inr ⟨arguments, rfl, fun name hname => ?_⟩
      rw [hpath] at hname
      simp [accessKeys] at hname
  · exact Or.inr ⟨call.arguments, rfl, fun _ _ => rfl⟩

theorem prepare_segments {operation : String} {route : Route} {call : ToolCall}
    {prepared : Prepared} (hroute : routeOf? operation = some route)
    (h : prepare operation call = .ok prepared) :
    ∃ segments, prepared.path = joinPath segments ∧
      List.Forall₂ (fun segment s => segment.Fills call s.toList) route.path segments := by
  rcases prepare_eq hroute call with ⟨-, e, -, herror⟩ | ⟨arguments, hprepare, hagree⟩
  · rw [herror] at h
    contradiction
  · rw [hprepare] at h
    obtain ⟨⟨segments, left⟩, hfill, hok⟩ := bind_eq_ok.mp h
    obtain rfl := Except.ok.inj hok
    have hproper := routes_proper _ (mem_routes_of_routeOf? hroute)
    exact ⟨segments, rfl, fillPath_fills hproper.1 hagree hfill⟩

/-- The path of a request has the pieces of the template, with a harmless piece in each place. -/
theorem prepare_pieces {operation : String} {route : Route} {call : ToolCall}
    {prepared : Prepared} (hroute : routeOf? operation = some route)
    (h : prepare operation call = .ok prepared) :
    ∃ pieces, splitBy '/' prepared.path.toList = [] :: pieces ∧
      List.Forall₂ (Segment.Fills call) route.path pieces := by
  obtain ⟨segments, hpath, hfills⟩ := prepare_segments hroute h
  have hproper := routes_proper _ (mem_routes_of_routeOf? hroute)
  refine ⟨segments.map String.toList, ?_, List.forall₂_map_right_iff.mpr hfills⟩
  rw [hpath, splitBy_path hproper hfills]

theorem Segment.Fills.text_eq {call call' : ToolCall} {name : String} {piece : List Char}
    (hname : isIdentifierName name = false) (h : (Segment.argument name).Fills call piece)
    (h' : (Segment.argument name).Fills call' piece) :
    segmentText? (call.get? name) = segmentText? (call'.get? name) := by
  obtain ⟨-, text, htext, hdecode⟩ := h
  obtain ⟨-, text', htext', hdecode'⟩ := h'
  rw [if_neg (by simp [hname])] at hdecode hdecode'
  rw [hdecode] at hdecode'
  rw [htext, htext', String.toList_inj.mp (Option.some.inj hdecode')]

theorem forall₂_mem {α β : Type} {R S : α → β → Prop} {as : List α} {bs : List β}
    (h : List.Forall₂ R as bs) (h' : List.Forall₂ S as bs) {a : α} (ha : a ∈ as) :
    ∃ b, R a b ∧ S a b := by
  induction h with
  | nil => contradiction
  | @cons a' b _ _ hR _ ih =>
    obtain ⟨hS, hrest⟩ := List.forall₂_cons.mp h'
    rcases List.mem_cons.mp ha with rfl | ha
    · exact ⟨b, hR, hS⟩
    · exact ih hrest ha

/-- No argument reaches beyond its place in the path, and what stands there tells which argument it
was. -/
theorem prepare_path {operation : String} {route : Route}
    (hroute : routeOf? operation = some route) :
    (splitBy '/' route.template.toList =
        [] :: route.path.map fun segment => segment.text.toList) ∧
      (∀ call prepared, prepare operation call = .ok prepared →
        ∃ pieces, splitBy '/' prepared.path.toList = [] :: pieces ∧
          List.Forall₂ (Segment.Fills call) route.path pieces) ∧
      ∀ call call' prepared prepared', prepare operation call = .ok prepared →
        prepare operation call' = .ok prepared' → prepared.path = prepared'.path →
        ∀ name, .argument name ∈ route.path → isIdentifierName name = false →
          segmentText? (call.get? name) = segmentText? (call'.get? name) := by
  have hproper := routes_proper _ (mem_routes_of_routeOf? hroute)
  refine ⟨splitBy_template hproper, fun call prepared h => prepare_pieces hroute h, ?_⟩
  intro call call' prepared prepared' h h' heq name hplace hname
  obtain ⟨pieces, hpieces, hfills⟩ := prepare_pieces hroute h
  obtain ⟨pieces', hpieces', hfills'⟩ := prepare_pieces hroute h'
  have hsame : pieces = pieces' := by
    rw [heq, hpieces'] at hpieces
    exact (List.cons.inj hpieces).2.symm
  subst hsame
  obtain ⟨piece, hpiece, hpiece'⟩ := forall₂_mem hfills hfills' hplace
  exact hpiece.text_eq hname hpiece'

/-- Directories, a query and a place of the template stay inside their pieces. -/
theorem prepare_path_bucket :
    let route : Route := { method := .post, path := oneBucket ++ [.literal "access"] }
    let call : ToolCall :=
      ⟨"update_bucket_acl", [("cluster", .str "../eu?"), ("label", .str "\x7bcluster\x7d#%2F")]⟩
    let path := "/object-storage/buckets/..%2Feu%3F/%7Bcluster%7D%23%252F/access"
    routeOf? "update_bucket_acl" = some route ∧
      prepare "update_bucket_acl" call = .ok { method := .post, path, body := some (.obj []) } ∧
      ∃ pieces, splitBy '/' path.toList = [] :: pieces ∧
        List.Forall₂ (Segment.Fills call) route.path pieces := by
  intro route call path
  have hroute : routeOf? "update_bucket_acl" = some route := by rfl
  have hprepare : prepare "update_bucket_acl" call =
      .ok { method := .post, path, body := some (.obj []) } := by rfl
  exact ⟨hroute, hprepare, (prepare_path hroute).2.1 call _ hprepare⟩

end CloudGate.Request
