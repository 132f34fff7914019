import CloudGate.Proofs.Gateway.Pages
import CloudGate.Proofs.Json.Basic
import CloudGate.Proofs.Net.Url

/-!
The gateway that sends nothing describes what the gateway to the provider sends.

* `prepare_unsupported`: what cannot become a request fails for one kind of reason, which no answer
  has.
* `prepare_pathText`: the path of a request stays as it is behind any base.
* `dispatch_described`: the two gateways fail alike before a request is made, and else each request
  that is sent is the one described.
-/

namespace CloudGate

namespace Request

open Net.Url (PathPiece pathText)

/-! ## Failures to prepare a request -/

theorem fillArgument_unsupported {name : String} {value : Option Json} {f : Gateway.Failure}
    (h : fillArgument name value = .error f) : ∃ reason, f = .unsupported reason := by
  unfold fillArgument at h
  simp only at h
  split at h
  · exact ⟨_, (Except.error.inj h).symm⟩
  · split at h
    · split at h
      · contradiction
      · exact ⟨_, (Except.error.inj h).symm⟩
    · split at h
      · exact ⟨_, (Except.error.inj h).symm⟩
      · contradiction

theorem fillPath_unsupported {path : List Segment} {arguments : Fields Json} {f : Gateway.Failure}
    (h : fillPath path arguments = .error f) : ∃ reason, f = .unsupported reason := by
  induction path generalizing arguments with
  | nil => contradiction
  | cons segment rest ih =>
    cases segment with
    | literal text =>
      rcases bind_eq_error.mp h with hrest | ⟨_, -, hok⟩
      · exact ih hrest
      · contradiction
    | argument name =>
      rcases bind_eq_error.mp h with hfill | ⟨s, -, h⟩
      · exact fillArgument_unsupported hfill
      · rcases bind_eq_error.mp h with hrest | ⟨_, -, hok⟩
        · exact ih hrest
        · contradiction

theorem normalizeGrants_unsupported {call : ToolCall} {f : Gateway.Failure}
    (h : normalizeGrants call = .error f) : ∃ reason, f = .unsupported reason := by
  unfold normalizeGrants at h
  split at h
  · contradiction
  · split at h
    · exact ⟨_, (Except.error.inj h).symm⟩
    · contradiction
    · contradiction

theorem prepare_unsupported {operation : String} {call : ToolCall} {f : Gateway.Failure}
    (h : prepare operation call = .error f) : ∃ reason, f = .unsupported reason := by
  cases hroute : routeOf? operation with
  | none =>
    simp only [prepare, hroute] at h
    exact ⟨_, (Except.error.inj h).symm⟩
  | some route =>
    rcases prepare_eq hroute call with ⟨-, e, hgrants, herror⟩ | ⟨arguments, hprepare, -⟩
    · rw [herror] at h
      obtain rfl := Except.error.inj h
      exact normalizeGrants_unsupported hgrants
    · rw [hprepare] at h
      rcases bind_eq_error.mp h with hfill | ⟨_, -, hok⟩
      · exact fillPath_unsupported hfill
      · contradiction

/-! ## Prepared requests -/

theorem numeral_piece (n : Int) : PathPiece (toString n).toList := by
  have hunreserved : ∀ c ∈ (toString n).toList, Text.isUnreserved c = true := by
    intro c hc
    rcases numeral_char hc with hdigit | rfl
    · exact isUnreserved_of_isDigit hdigit
    · rfl
  have hdot : '.' ∉ (toString n).toList := by
    intro hmem
    rcases numeral_char hmem with hdigit | hminus
    · exact absurd hdigit (by decide)
    · exact absurd hminus (by decide)
  refine .of_unreserved hunreserved (numeral_ne_nil n) ?_ ?_
  · intro h
    exact hdot (h ▸ List.mem_singleton.mpr rfl)
  · intro h
    exact hdot (h ▸ List.mem_cons_self ..)

theorem fillArgument_piece {name : String} {value : Option Json} {s : String}
    (h : fillArgument name value = .ok s) : PathPiece s.toList := by
  unfold fillArgument at h
  simp only at h
  split at h
  · contradiction
  · rename_i text htext
    split at h
    · split at h
      · obtain rfl := Except.ok.inj h
        exact numeral_piece _
      · contradiction
    · split at h
      · contradiction
      · rename_i hdots
        obtain ⟨hcurrent, hparent⟩ := not_or.mp hdots
        obtain rfl := Except.ok.inj h
        rw [String.toList_ofList]
        have hempty := segmentText?_ne_empty htext
        refine .encoded ?_ ?_ ?_
        · exact fun hnil => hempty (String.toList_inj.mp hnil)
        · exact fun hdot => hcurrent (String.toList_inj.mp hdot)
        · exact fun hdot => hparent (String.toList_inj.mp hdot)

/-- The segment needs no encoding and is no directory. -/
def Segment.isPlain : Segment → Bool
  | .literal text =>
    text.toList.all Text.isUnreserved && !(["", ".", ".."].contains text)
  | .argument _ => true

theorem routes_plain :
    ∀ p ∈ routes, p.2.path ≠ [] ∧ ∀ segment ∈ p.2.path, segment.isPlain = true := by
  decide

theorem literal_piece {text : String} (h : (Segment.literal text).isPlain = true) :
    PathPiece text.toList := by
  simp only [Segment.isPlain, Bool.and_eq_true, List.all_eq_true, Bool.not_eq_true',
    List.contains_eq_mem, List.mem_cons, List.not_mem_nil, or_false, decide_eq_false_iff_not,
    not_or] at h
  obtain ⟨hunreserved, hempty, hcurrent, hparent⟩ := h
  refine .of_unreserved hunreserved ?_ ?_ ?_
  · exact fun heq => hempty (String.toList_inj.mp heq)
  · exact fun heq => hcurrent (String.toList_inj.mp heq)
  · exact fun heq => hparent (String.toList_inj.mp heq)

theorem fillPath_pieces {path : List Segment} (hplain : ∀ segment ∈ path, segment.isPlain = true)
    {arguments left : Fields Json} {segments : List String}
    (h : fillPath path arguments = .ok (segments, left)) :
    segments.length = path.length ∧ ∀ s ∈ segments, PathPiece s.toList := by
  induction path generalizing arguments left segments with
  | nil =>
    obtain ⟨rfl, -⟩ := Prod.mk.inj (Except.ok.inj h)
    exact ⟨rfl, List.forall_mem_nil _⟩
  | cons segment rest ih =>
    obtain ⟨hfirst, hrest⟩ := List.forall_mem_cons.mp hplain
    cases segment with
    | literal text =>
      obtain ⟨⟨more, left'⟩, hmore, hok⟩ := bind_eq_ok.mp h
      obtain ⟨rfl, -⟩ := Prod.mk.inj (Except.ok.inj hok)
      obtain ⟨hlength, hpieces⟩ := ih hrest hmore
      exact ⟨congrArg (· + 1) hlength, List.forall_mem_cons.mpr ⟨literal_piece hfirst, hpieces⟩⟩
    | argument name =>
      obtain ⟨s, hs, h⟩ := bind_eq_ok.mp h
      obtain ⟨⟨more, left'⟩, hmore, hok⟩ := bind_eq_ok.mp h
      obtain ⟨rfl, -⟩ := Prod.mk.inj (Except.ok.inj hok)
      obtain ⟨hlength, hpieces⟩ := ih hrest hmore
      exact ⟨congrArg (· + 1) hlength,
        List.forall_mem_cons.mpr ⟨fillArgument_piece hs, hpieces⟩⟩

/-- What a request is made of: pieces that stay as they are behind any base, and an object or
nothing. -/
theorem prepare_pathText {operation : String} {call : ToolCall} {r : Prepared}
    (h : prepare operation call = .ok r) :
    (∃ pieces, pieces ≠ [] ∧ (∀ piece ∈ pieces, PathPiece piece) ∧ r.path = pathText pieces) ∧
      (r.body = none ∨ ∃ members, r.body = some (.obj members)) := by
  cases hroute : routeOf? operation with
  | none =>
    simp only [prepare, hroute] at h
    contradiction
  | some route =>
    rcases prepare_eq hroute call with ⟨-, e, -, herror⟩ | ⟨arguments, hprepare, -⟩
    · rw [herror] at h
      contradiction
    · rw [hprepare] at h
      obtain ⟨⟨segments, left⟩, hfill, hok⟩ := bind_eq_ok.mp h
      obtain rfl := Except.ok.inj hok
      obtain ⟨hsome, hplain⟩ := routes_plain _ (mem_routes_of_routeOf? hroute)
      obtain ⟨hlength, hpieces⟩ := fillPath_pieces hplain hfill
      refine ⟨⟨segments.map String.toList, ?_, List.forall_mem_map.mpr hpieces, ?_⟩, ?_⟩
      · rintro hnil
        rw [List.map_eq_nil_iff] at hnil
        rw [hnil] at hlength
        exact hsome (List.length_eq_zero_iff.mp hlength.symm)
      · apply String.toList_inj.mp
        rw [Net.Url.toList_pathText]
        exact toList_joinPath segments
      · cases route.method.hasBody with
        | true => exact Or.inr ⟨_, rfl⟩
        | false => exact Or.inl rfl

end Request

namespace Gateway

/-! ## Failures of requests that were made -/

namespace Provider

theorem interpret_supported (r : Request.Prepared) (sent : WebRequest) (answer : WebAnswer)
    (reason : String) : interpret r sent answer ≠ .error (.unsupported reason) := by
  have hstatus : ∀ status path body, statusFailure status path body ≠ .unsupported reason := by
    intro status path body
    unfold statusFailure
    simp only
    split
    · exact nofun
    · split
      · exact nofun
      · exact nofun
  cases answer with
  | dropped => exact nofun
  | late => exact nofun
  | response status body =>
    unfold interpret
    simp only
    split
    · exact fun h => hstatus _ _ _ (Except.error.inj h)
    · split
      · exact nofun
      · split
        · exact nofun
        · exact nofun

theorem webRequest_error {p : Provider} {token : String} {r : Request.Prepared} {page : Option Nat}
    {f : Failure} (h : p.webRequest token r page = .error f) :
    ∃ reason, f = .connection reason := by
  unfold webRequest at h
  split at h
  · exact ⟨_, (Except.error.inj h).symm⟩
  · simp only at h
    split at h
    · exact ⟨_, (Except.error.inj h).symm⟩
    · split at h
      · exact ⟨_, (Except.error.inj h).symm⟩
      · split at h
        · contradiction
        · exact ⟨_, (Except.error.inj h).symm⟩

/-- Joining results does not make failures. -/
theorem map_ne_error {α β : Type} {x : Except Failure α} {f : α → β} {failure : Failure}
    (h : x ≠ .error failure) : x.map f ≠ .error failure := by
  cases x with
  | error failure' => exact fun heq => h (congrArg Except.error (Except.error.inj heq))
  | ok a => exact nofun

variable (p : Provider) (transport : Transport) (token : String) (r : Request.Prepared)

theorem send_supported (page : Option Nat) (before : Nat) (reason : String) :
    (p.send transport token r page before).outcome ≠ .error (.unsupported reason) := by
  unfold send
  simp only
  split
  · rename_i f hf
    obtain ⟨why, rfl⟩ := webRequest_error hf
    exact nofun
  · exact interpret_supported _ _ _ _

theorem fetchPages_supported (left before : Nat) (reason : String) :
    (p.fetchPages transport token r left before).outcome ≠ .error (.unsupported reason) := by
  induction left using Nat.strongRecOn generalizing before with
  | ind left ih =>
    have hfirst := p.send_supported transport token r (some (maxPages - left)) before reason
    generalize he : p.fetchPages transport token r left before = e
    unfold fetchPages at he
    simp only at he
    cases houtcome : (p.send transport token r (some (maxPages - left)) before).outcome with
    | error f =>
      rw [houtcome] at hfirst
      simp only [houtcome] at he
      subst he
      exact fun h => hfirst (congrArg Except.error (Except.error.inj h))
    | ok body =>
      simp only [houtcome] at he
      split at he
      · subst he
        intro h
        cases h
      · split at he
        · subst he
          intro h
          cases h
        · cases left with
          | zero =>
            subst he
            intro h
            cases h
          | succ rest =>
            subst he
            exact map_ne_error (ih rest (Nat.lt_succ_self rest) _)

theorem dispatch_supported {before : Nat} {operation : String} {call : ToolCall}
    {r : Request.Prepared} (hr : Request.prepare operation call = .ok r) (reason : String) :
    (p.dispatch transport before operation call).outcome ≠ .error (.unsupported reason) := by
  unfold dispatch
  rw [hr]
  cases p.token with
  | none => exact nofun
  | some token =>
    simp only
    split
    · unfold fetchAll
      simp only
      exact map_ne_error (p.fetchPages_supported transport token r (maxPages - 1) before reason)
    · exact p.send_supported transport token r none before reason

end Provider

/-! ## Requests as they are described -/

/-- The description in the answer of a dry run. -/
def described (operation : String) (answer : Json) : Option Json :=
  if isListing operation then answer.get? "request" else some answer

/-- The request is the one described, behind the path of the base and with this query. -/
structure Describes (description : Json) (base : Net.Url) (front : String) (query : Option String)
    (sent : WebRequest) : Prop where
  method : description.get? "method" = some (.str sent.method.name)
  url : ∃ path, description.get? "path" = some (.str path) ∧
    sent.url = { base with path := front ++ path, query }
  body : (sent.body = none ∧ description.get? "body" = some .null) ∨
    ∃ members, sent.body = some (.obj members) ∧ description.get? "body" = some (.obj members)

theorem dryRun_described (operation : String) (call : ToolCall) :
    DryRun.dispatch operation call =
      (Request.prepare operation call).map fun r =>
        if isListing operation then
          .object [("data", .arr []), ("request", DryRun.describe operation r)]
        else DryRun.describe operation r := rfl

theorem described_of_prepare {operation : String} {call : ToolCall} {r : Request.Prepared}
    (hr : Request.prepare operation call = .ok r) {answer : Json}
    (h : DryRun.dispatch operation call = .ok answer) :
    described operation answer = some (DryRun.describe operation r) := by
  rw [dryRun_described, hr] at h
  obtain rfl := Except.ok.inj h
  unfold described
  cases isListing operation with
  | true => simp [Json.get?_object]
  | false => rfl

theorem describes_of_url {operation : String} {call : ToolCall} {r : Request.Prepared}
    (hr : Request.prepare operation call = .ok r) {base : Net.Url} {front : String}
    {query : Option String} {sent : WebRequest} (hmethod : sent.method = r.method)
    (hurl : sent.url = { base with path := front ++ r.path, query }) (hbody : sent.body = r.body) :
    Describes (DryRun.describe operation r) base front query sent where
  method := by simp [DryRun.describe, Json.get?_object, hmethod]
  url := ⟨r.path, by simp [DryRun.describe, Json.get?_object], hurl⟩
  body := by
    rw [hbody]
    rcases (Request.prepare_pathText hr).2 with hnone | ⟨members, hmembers⟩
    · exact Or.inl ⟨hnone, by simp [DryRun.describe, Json.get?_object, hnone]⟩
    · exact Or.inr ⟨members, hmembers, by simp [DryRun.describe, Json.get?_object, hmembers]⟩

namespace Provider

/-- Behind a base every request can be sent to its own address. -/
theorem reaches_of_base {p : Provider} {base : Net.Url} (hbase : Net.Url.IsBase p.baseUrl base)
    {token : String} (htoken : token.toList.all isHeaderChar = true) {operation : String}
    {call : ToolCall} {r : Request.Prepared} (hr : Request.prepare operation call = .ok r) :
    base.query = none ∧ ∃ front, (base.path = front ∨ base.path = front ++ "/") ∧
      p.Reaches token r { base with path := front ++ r.path } := by
  obtain ⟨⟨pieces, hsome, hpieces, hpath⟩, -⟩ := Request.prepare_pathText hr
  obtain ⟨hhost, hquery, front, hfront, haddress⟩ := Net.Url.parse_append hbase hsome hpieces
  rw [← hpath] at haddress
  exact ⟨hquery, front, hfront, haddress, hhost, htoken, hbase.scheme⟩

theorem Reaches.webRequest_single {p : Provider} {token : String} {r : Request.Prepared}
    {url : Net.Url} (h : p.Reaches token r url) :
    p.webRequest token r none = .ok { method := r.method, url, token, body := r.body } := by
  have hhost : url.host.isNone = false := by
    rw [Option.isNone_eq_false_iff]
    exact h.host
  have hplain : url.addQuery [] = url := rfl
  simp only [Provider.webRequest, h.address, hhost, h.token, Option.map_none, Option.getD_none,
    hplain, if_pos h.scheme]
  rfl

theorem addQuery_page (url : Net.Url) (h : url.query = none) (number : Nat) :
    url.addQuery [("page", toString number), ("page_size", "500")] =
      { url with query := some ("page=" ++ toString number ++ "&page_size=500") } := by
  have htext : "&".intercalate ["page" ++ "=" ++ toString number, "page_size" ++ "=" ++ "500"] =
      "page=" ++ toString number ++ "&page_size=500" := by
    show "page" ++ "=" ++ toString number ++ "&" ++ ("page_size" ++ "=" ++ "500") = _
    rw [String.append_assoc]
    rfl
  simp only [Net.Url.addQuery, h, List.isEmpty_cons, Bool.false_eq_true, ↓reduceIte, List.map_cons,
    List.map_nil, htext]

variable (operation : String) (call : ToolCall) (transport : Transport) (before : Nat)
  (baseUrl : String) (token : Option String)

/-- The token is there and not blank. -/
theorem ofSettings_token {text : String} (htext : Text.isBlankText text = false) :
    (ofSettings baseUrl (some text)).token = some text := by
  simp [ofSettings, htext]

/-- Without a fit token nothing is sent. -/
theorem dispatch_missing {r : Request.Prepared} (hr : Request.prepare operation call = .ok r)
    (htoken : ∀ text, token = some text → Text.isBlankText text = true) :
    (ofSettings baseUrl token).dispatch transport before operation call =
      { outcome := .error .missingToken } := by
  have hnone : (ofSettings baseUrl token).token = none := by
    cases token with
    | none => rfl
    | some text => simp [ofSettings, htoken text rfl]
  unfold dispatch
  rw [hr, hnone]

/-- A call that does not list is one request. -/
theorem dispatch_single {r : Request.Prepared} (hr : Request.prepare operation call = .ok r)
    {p : Provider} {text : String} (htext : p.token = some text)
    (hlist : isListing operation = false) {url : Net.Url} (hurl : p.Reaches text r url) :
    (p.dispatch transport before operation call).requests =
      [{ method := r.method, url, token := text, body := r.body }] := by
  unfold dispatch
  rw [hr, htext]
  simp only [hlist, Bool.and_false, Bool.false_eq_true, ↓reduceIte,
    send_eq hurl.webRequest_single]

theorem dispatch_pages {r : Request.Prepared} (hr : Request.prepare operation call = .ok r)
    {text : String} (htext : Text.isBlankText text = false)
    (hlist : isListing operation = true) {url : Net.Url}
    (hurl : (ofSettings baseUrl (some text)).Reaches text r url) :
    ∃ last, 1 ≤ last ∧ last ≤ 50 ∧
      ((ofSettings baseUrl (some text)).dispatch transport before operation call).requests =
        (List.range' 1 last).map (pageRequest text url) := by
  obtain ⟨hmethod, hbody⟩ := prepare_listing hlist hr
  have hfirst : maxPages - (maxPages - 1) = 1 := by decide
  obtain ⟨last, hfetched⟩ := fetchPages_run (hurl.webRequest hmethod hbody) transport before
    hfirst (Nat.le_refl 1)
  refine ⟨last, hfetched.order, hfetched.last_le (by decide), ?_⟩
  rw [dispatch_eq htext hlist hr]
  exact hfetched.requests

end Provider

/-- The requests that are sent for a call are those of its description: one, or one for each page of
a list, which add nothing but the number and the size of the page. -/
structure Foretold (operation : String) (answer : Json) (base : Net.Url) (front : String)
    (requests : List WebRequest) : Prop where
  start : base.path = front ∨ base.path = front ++ "/"
  single : isListing operation = false → ∃ description sent,
    described operation answer = some description ∧ requests = [sent] ∧
      Describes description base front none sent
  pages : isListing operation = true → ∃ description last,
    described operation answer = some description ∧ 1 ≤ last ∧ last ≤ 50 ∧
      List.Forall₂ (fun page sent => Describes description base front
        (some ("page=" ++ toString page ++ "&page_size=500")) sent) (List.range' 1 last) requests

theorem foretold {operation : String} {call : ToolCall} {r : Request.Prepared}
    (hr : Request.prepare operation call = .ok r) {answer : Json}
    (hanswer : DryRun.dispatch operation call = .ok answer) (transport : Transport) (before : Nat)
    {baseUrl text : String} (htext : Text.isBlankText text = false)
    (hchars : text.toList.all isHeaderChar = true) {base : Net.Url}
    (hbase : Net.Url.IsBase (Provider.ofSettings baseUrl (some text)).baseUrl base) :
    ∃ front, Foretold operation answer base front
      ((Provider.ofSettings baseUrl (some text)).dispatch transport before operation
        call).requests := by
  obtain ⟨hquery, front, hfront, hreaches⟩ := Provider.reaches_of_base hbase hchars hr
  have hdescribed := described_of_prepare hr hanswer
  refine ⟨front, hfront, fun hlist => ?_, fun hlist => ?_⟩
  · have hrequests := Provider.dispatch_single operation call transport before hr
      (Provider.ofSettings_token baseUrl htext) hlist hreaches
    exact ⟨_, _, hdescribed, hrequests, describes_of_url hr rfl (by rw [hquery]) rfl⟩
  · obtain ⟨last, hfirst, hlast, hrequests⟩ := Provider.dispatch_pages operation call transport
      before baseUrl hr htext hlist hreaches
    obtain ⟨hmethod, hbody⟩ := Provider.prepare_listing hlist hr
    refine ⟨_, last, hdescribed, hfirst, hlast, ?_⟩
    rw [hrequests, List.forall₂_map_right_iff, List.forall₂_same]
    intro page _
    have hpage := Provider.addQuery_page { base with path := front ++ r.path } hquery page
    exact describes_of_url hr hmethod.symm hpage hbody.symm

/-- Both gateways fail alike where there is no request to make. Else nothing is sent without a
token, and with a fit token and base exactly what a dry run tells. -/
theorem dispatch_described (operation : String) (call : ToolCall) (transport : Transport)
    (before : Nat) (baseUrl : String) (token : Option String) :
    let p := Provider.ofSettings baseUrl token
    let e := p.dispatch transport before operation call
    (∀ reason, e.outcome = .error (.unsupported reason) ↔
        DryRun.dispatch operation call = .error (.unsupported reason)) ∧
      (∀ f, DryRun.dispatch operation call = .error f →
        (∃ reason, f = .unsupported reason) ∧ e.outcome = .error f ∧ e.requests = []) ∧
      ∀ answer, DryRun.dispatch operation call = .ok answer →
        ((∀ text, token = some text → Text.isBlankText text = true) →
            e.outcome = .error .missingToken ∧ e.requests = []) ∧
          ∀ text base, token = some text → Text.isBlankText text = false →
            text.toList.all isHeaderChar = true → Net.Url.IsBase p.baseUrl base →
            ∃ front, Foretold operation answer base front e.requests := by
  intro p e
  cases hr : Request.prepare operation call with
  | error f =>
    obtain ⟨why, rfl⟩ := Request.prepare_unsupported hr
    have he : e = { outcome := .error (.unsupported why) } := by
      show p.dispatch transport before operation call = _
      unfold Provider.dispatch
      rw [hr]
    have hdry : DryRun.dispatch operation call = .error (.unsupported why) := by
      rw [dryRun_described, hr]
      rfl
    rw [he, hdry]
    refine ⟨fun reason => ?_, fun f hf => ?_, fun answer hanswer => by contradiction⟩
    · rfl
    · obtain rfl := Except.error.inj hf
      exact ⟨⟨why, rfl⟩, rfl, rfl⟩
  | ok r =>
    have hdry : ∀ f, DryRun.dispatch operation call ≠ .error f := by
      intro f
      rw [dryRun_described, hr]
      exact nofun
    refine ⟨fun reason => ?_, fun f hf => absurd hf (hdry f), fun answer hanswer => ⟨?_, ?_⟩⟩
    · exact iff_of_false (p.dispatch_supported transport hr reason) (hdry _)
    · intro htoken
      have he := Provider.dispatch_missing operation call transport before baseUrl token hr htoken
      exact ⟨congrArg Exchange.outcome he, congrArg Exchange.requests he⟩
    · rintro text base rfl htext hchars hbase
      exact foretold hr hanswer transport before htext hchars hbase

/-- A list of two pages, behind a base with a slash at its end. -/
theorem dispatch_described_volumes :
    let transport : Transport := fun before _ =>
      .response 200 (["\x7b\"data\": [\"a\"], \"pages\": 2\x7d",
        "\x7b\"data\": [\"b\"], \"pages\": 2\x7d"].getD before "")
    let call : ToolCall := ⟨"list_volumes", []⟩
    let p := Provider.ofSettings "https://c.io/v4/" (some "secret")
    let base : Net.Url := { scheme := "https", host := some (.domain "c.io"), path := "/v4" }
    Net.Url.IsBase p.baseUrl base ∧
      (∃ answer front, DryRun.dispatch "list_volumes" call = .ok answer ∧
        Foretold "list_volumes" answer base front
          (p.dispatch transport 0 "list_volumes" call).requests) ∧
      (p.dispatch transport 0 "list_volumes" call).requests.map (fun sent => sent.url.render) =
        ["https://c.io/v4/volumes?page=1&page_size=500",
          "https://c.io/v4/volumes?page=2&page_size=500"] := by
  intro transport call p base
  have hbase : Net.Url.IsBase p.baseUrl base := by
    have haddress : (Net.Url.parse p.baseUrl).toOption = some base := by decide +kernel
    have hplain : p.baseUrl.toList.all (fun c => 0x20 < c.toNat ∧ c ≠ '?' ∧ c ≠ '#') = true := by
      decide +kernel
    refine ⟨?_, Or.inr rfl, fun c hc => of_decide_eq_true (List.all_eq_true.mp hplain c hc)⟩
    cases hparse : Net.Url.parse p.baseUrl with
    | error fault =>
      rw [hparse] at haddress
      contradiction
    | ok url =>
      rw [hparse] at haddress
      rw [Option.some.inj haddress]
  have hanswer : DryRun.dispatch "list_volumes" call =
      .ok (.object [("data", .arr []), ("request", DryRun.describe "list_volumes"
        { method := .get, path := "/volumes", body := none })]) := by rfl
  obtain ⟨-, -, hok⟩ := dispatch_described "list_volumes" call transport 0 "https://c.io/v4/"
    (some "secret")
  obtain ⟨front, hforetold⟩ := (hok _ hanswer).2 "secret" base rfl (by decide +kernel)
    (by decide +kernel) hbase
  exact ⟨hbase, ⟨_, front, hanswer, hforetold⟩, by decide +kernel⟩

end Gateway

end CloudGate
