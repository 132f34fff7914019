import CloudGate.Gateway.Rest
import CloudGate.Proofs.Json.Number
import CloudGate.Proofs.Request.Path

/-!
Lists, which the provider hands out page by page.

* `PageAnswer`: what the answer to the request for a page means.
* `fetchPages_step`: a page is the last one, or it is followed by the pages behind it.
* `fetchPages_run`: pages are fetched one after the other, up to the first that ends the list.
* `dispatch_list`: a call that lists fetches the pages from the first one on and joins them.
-/

namespace CloudGate.Gateway.Provider

/-! ## Answers -/

/-- The items on a page of a list and the number of pages that it reports. -/
structure Page where
  items : List Json
  pages : Nat

/-- A document reports the number of pages by an unsigned integer of 64 bits, else it is one. -/
inductive Reports (v : Json) : Nat → Prop
  | given {n : Nat} (hpages : v.get? "pages" = some (.nat n)) (hfits : n ≤ maxUInt64) : Reports v n
  | other (hpages : ∀ n : Nat, n ≤ maxUInt64 → v.get? "pages" ≠ some (.nat n)) : Reports v 1

theorem Reports.unique {v : Json} {m n : Nat} (h : Reports v m) (h' : Reports v n) : m = n := by
  cases h with
  | given hpages hfits =>
    cases h' with
    | given hpages' =>
      have hsame := Option.some.inj (hpages.symm.trans hpages')
      simp only [Json.nat, Json.int, Json.num.injEq, Json.Number.int.injEq] at hsame
      omega
    | other hpages' => exact absurd hpages (hpages' m hfits)
  | other hpages =>
    cases h' with
    | given hpages' hfits => exact absurd hpages' (hpages n hfits)
    | other => rfl

theorem reports_pageCount {s : String} {v : Json} (h : Json.parse s = .ok v) :
    Reports v (pageCount v) := by
  cases hcount : (v.get? "pages").bind Json.nat? with
  | some n =>
    obtain ⟨member, hpages, hn⟩ := Option.bind_eq_some_iff.mp hcount
    rw [Json.nat?_eq_some.mp hn] at hpages
    simp only [pageCount, hcount, Option.getD_some]
    exact .given hpages (Json.parse_member_fits h hpages).2
  | none =>
    simp only [pageCount, hcount, Option.getD_none]
    refine .other fun n _ hpages => ?_
    rw [hpages, Option.bind_some, Json.nat?_eq_some.mpr rfl] at hcount
    contradiction

/-- What the answer to the request for a page means: the page, or why there is none. -/
inductive PageAnswer (r : Request.Prepared) (sent : WebRequest) :
    WebAnswer → Except Failure Page → Prop
  | dropped : PageAnswer r sent .dropped
      (.error (.connection ("error sending request for url (" ++ sent.url.render ++ ")")))
  | late : PageAnswer r sent .late (.error .timeout)
  | refused {status : Nat} {body : String} (hstatus : ¬ (200 ≤ status ∧ status < 300)) :
      PageAnswer r sent (.response status body)
        (.error (statusFailure status r.path (bodyText status body)))
  | blank {status : Nat} {body : String} (hstatus : 200 ≤ status ∧ status < 300)
      (hblank : Text.isBlankText (bodyText status body) = true) :
      PageAnswer r sent (.response status body)
        (.error (.invalidResponse (r.path ++ " returned no data list")))
  | garbled {status : Nat} {body : String} {fault : Json.Fault}
      (hstatus : 200 ≤ status ∧ status < 300)
      (hblank : Text.isBlankText (bodyText status body) = false)
      (hparse : Json.parse (bodyText status body) = .error fault) :
      PageAnswer r sent (.response status body)
        (.error (.invalidResponse (fault.message (bodyText status body).toList)))
  | listless {status : Nat} {body : String} {v : Json} (hstatus : 200 ≤ status ∧ status < 300)
      (hblank : Text.isBlankText (bodyText status body) = false)
      (hparse : Json.parse (bodyText status body) = .ok v)
      (hdata : ∀ items, v.get? "data" ≠ some (.arr items)) :
      PageAnswer r sent (.response status body)
        (.error (.invalidResponse (r.path ++ " returned no data list")))
  | page {status : Nat} {body : String} {v : Json} {items : List Json} {pages : Nat}
      (hstatus : 200 ≤ status ∧ status < 300)
      (hblank : Text.isBlankText (bodyText status body) = false)
      (hparse : Json.parse (bodyText status body) = .ok v)
      (hdata : v.get? "data" = some (.arr items)) (hpages : Reports v pages) :
      PageAnswer r sent (.response status body) (.ok ⟨items, pages⟩)

/-- The page in the answer to its request. -/
def readPage (r : Request.Prepared) (sent : WebRequest) (answer : WebAnswer) :
    Except Failure Page :=
  match interpret r sent answer with
  | .error f => .error f
  | .ok body =>
    match (body.get? "data").bind Json.arr? with
    | none => .error (.invalidResponse (r.path ++ " returned no data list"))
    | some items => .ok ⟨items, pageCount body⟩

theorem isSuccess_eq (status : Nat) :
    Net.Status.isSuccess status = decide (200 ≤ status ∧ status < 300) := by
  rw [Bool.decide_and]
  rfl

theorem pageAnswer_readPage (r : Request.Prepared) (sent : WebRequest) (answer : WebAnswer) :
    PageAnswer r sent answer (readPage r sent answer) := by
  cases answer with
  | dropped => exact .dropped
  | late => exact .late
  | response status body =>
    by_cases hstatus : 200 ≤ status ∧ status < 300
    · cases hblank : Text.isBlankText (bodyText status body) with
      | true =>
        have hread : readPage r sent (.response status body) =
            .error (.invalidResponse (r.path ++ " returned no data list")) := by
          simp [readPage, interpret, isSuccess_eq, hstatus, hblank, Json.get?, Fields.get?]
        rw [hread]
        exact .blank hstatus hblank
      | false =>
        cases hparse : Json.parse (bodyText status body) with
        | error fault =>
          have hread : readPage r sent (.response status body) =
              .error (.invalidResponse (fault.message (bodyText status body).toList)) := by
            simp [readPage, interpret, isSuccess_eq, hstatus, hblank, hparse]
          rw [hread]
          exact .garbled hstatus hblank hparse
        | ok v =>
          cases hdata : (v.get? "data").bind Json.arr? with
          | none =>
            have hread : readPage r sent (.response status body) =
                .error (.invalidResponse (r.path ++ " returned no data list")) := by
              simp [readPage, interpret, isSuccess_eq, hstatus, hblank, hparse, hdata]
            rw [hread]
            refine .listless hstatus hblank hparse fun items hitems => ?_
            rw [hitems] at hdata
            contradiction
          | some items =>
            have hread : readPage r sent (.response status body) =
                .ok ⟨items, pageCount v⟩ := by
              simp [readPage, interpret, isSuccess_eq, hstatus, hblank, hparse, hdata]
            rw [hread]
            obtain ⟨member, hmember, hitems⟩ := Option.bind_eq_some_iff.mp hdata
            rw [Json.arr?_eq_some.mp hitems] at hmember
            exact .page hstatus hblank hparse hmember (reports_pageCount hparse)
    · have hread : readPage r sent (.response status body) =
          .error (statusFailure status r.path (bodyText status body)) := by
        simp [readPage, interpret, isSuccess_eq, hstatus]
      rw [hread]
      exact .refused hstatus

theorem PageAnswer.readPage_eq {r : Request.Prepared} {sent : WebRequest} {answer : WebAnswer}
    {x : Except Failure Page} (h : PageAnswer r sent answer x) : readPage r sent answer = x := by
  cases h with
  | dropped => rfl
  | late => rfl
  | refused hstatus => simp [readPage, interpret, isSuccess_eq, hstatus]
  | blank hstatus hblank =>
    simp [readPage, interpret, isSuccess_eq, hstatus, hblank, Json.get?, Fields.get?]
  | garbled hstatus hblank hparse =>
    simp [readPage, interpret, isSuccess_eq, hstatus, hblank, hparse]
  | @listless _ _ v hstatus hblank hparse hdata =>
    have hnone : (v.get? "data").bind Json.arr? = none := by
      rw [Option.bind_eq_none_iff]
      intro member hmember
      cases harr : member.arr? with
      | none => rfl
      | some items => exact absurd (Json.arr?_eq_some.mp harr ▸ hmember) (hdata items)
    simp [readPage, interpret, isSuccess_eq, hstatus, hblank, hparse, hnone]
  | page hstatus hblank hparse hdata hpages =>
    simp [readPage, interpret, isSuccess_eq, hstatus, hblank, hparse, hdata, Json.arr?,
      hpages.unique (reports_pageCount hparse)]

/-! ## Pages one after the other -/

/-- An answer that ends a list: it has no page, it has the last of the pages that it reports, or it
has the last page that is asked for. -/
def EndsList (r : Request.Prepared) (sent : WebRequest) (answer : WebAnswer) (number : Nat) :
    Prop :=
  (∃ f, PageAnswer r sent answer (.error f)) ∨
    (∃ page, PageAnswer r sent answer (.ok page) ∧ page.pages ≤ number) ∨ number = 50

/-- The pages `first` to `last` of a list are fetched in this order, and `last` is the first of them
that ends the list. If it has failed, that is the outcome; else the outcome is made of the items on
all pages. -/
structure Fetched {α : Type} (join : List Json → α) (r : Request.Prepared)
    (request : Nat → WebRequest) (answer : Nat → WebAnswer) (first last : Nat) (e : Exchange α) :
    Prop where
  order : first ≤ last
  goes_on : ∀ k, first ≤ k → k < last → ¬ EndsList r (request k) (answer k) k
  ends : EndsList r (request last) (answer last) last
  requests : e.requests = (List.range' first (last + 1 - first)).map request
  outcome :
    (∃ f, PageAnswer r (request last) (answer last) (.error f) ∧ e.outcome = .error f) ∨
      ∃ pages, List.Forall₂ (fun k page => PageAnswer r (request k) (answer k) (.ok page))
          (List.range' first (last + 1 - first)) pages ∧
        e.outcome = .ok (join (pages.flatMap Page.items))

/-- What becomes of the next page: it fails, it is the last one, or the pages behind it are fetched,
too. `left` is the number of pages that may be. -/
inductive FetchStep (page : Except Failure Page) (sent : WebRequest) (number left : Nat)
    (others : Nat → Exchange (List Json)) (e : Exchange (List Json)) : Prop
  | failed {f : Failure} (hpage : page = .error f) (houtcome : e.outcome = .error f)
      (hrequests : e.requests = [sent])
  | last {fetched : Page} (hpage : page = .ok fetched) (hlast : fetched.pages ≤ number ∨ left = 0)
      (houtcome : e.outcome = .ok fetched.items) (hrequests : e.requests = [sent])
  | more {fetched : Page} {rest : Nat} (hpage : page = .ok fetched)
      (hmore : number < fetched.pages) (hleft : left = rest + 1)
      (houtcome : e.outcome = (others rest).outcome.map (fetched.items ++ ·))
      (hrequests : e.requests = sent :: (others rest).requests)

section

variable {p : Provider} {transport : Transport} {token : String} {r : Request.Prepared}

theorem send_eq {page : Option Nat} {sent : WebRequest} (h : p.webRequest token r page = .ok sent)
    (before : Nat) :
    p.send transport token r page before =
      { outcome := interpret r sent (transport before sent)
        requests := [sent]
        log := [⟨.debug, r.method.name ++ " " ++ r.path⟩] } := by
  simp only [send, h]

theorem fetchPages_step {left number : Nat} (hnumber : maxPages - left = number) {sent : WebRequest}
    (hsent : p.webRequest token r (some number) = .ok sent) (before : Nat) :
    FetchStep (readPage r sent (transport before sent)) sent number left
      (fun rest => p.fetchPages transport token r rest (before + 1))
      (p.fetchPages transport token r left before) := by
  -- The equation keeps the recursive call in the goal from being unfolded along.
  generalize he : p.fetchPages transport token r left before = e
  unfold fetchPages at he
  simp only [hnumber, send_eq hsent] at he
  unfold readPage
  cases hbody : interpret r sent (transport before sent) with
  | error f =>
    simp only [hbody] at he
    subst he
    exact .failed rfl rfl rfl
  | ok body =>
    simp only [hbody] at he ⊢
    cases hdata : (body.get? "data").bind Json.arr? with
    | none =>
      simp only [hdata] at he
      subst he
      exact .failed rfl rfl rfl
    | some items =>
      simp only [hdata] at he
      by_cases hlast : pageCount body ≤ number
      · rw [if_pos hlast] at he
        subst he
        exact .last rfl (.inl hlast) rfl rfl
      · rw [if_neg hlast] at he
        cases left with
        | zero =>
          subst he
          exact .last rfl (.inr rfl) rfl rfl
        | succ rest =>
          subst he
          exact .more rfl (Nat.lt_of_not_le hlast) rfl rfl rfl

theorem not_endsList {sent : WebRequest} {answer : WebAnswer} {page : Page} {k : Nat}
    (hpage : readPage r sent answer = .ok page) (hmore : k < page.pages) (hcap : k ≠ 50) :
    ¬ EndsList r sent answer k := by
  rintro (⟨f, hf⟩ | ⟨page', hpage', hlast⟩ | hk)
  · rw [hf.readPage_eq] at hpage
    contradiction
  · rw [hpage'.readPage_eq] at hpage
    obtain rfl := Except.ok.inj hpage
    omega
  · exact hcap hk

/-- One page in front of those that are fetched behind it. -/
theorem Fetched.cons {request : Nat → WebRequest} {answer : Nat → WebAnswer} {first last : Nat}
    {e others : Exchange (List Json)} {page : Page}
    (h : Fetched id r request answer (first + 1) last others)
    (hgo : ¬ EndsList r (request first) (answer first) first)
    (hpage : PageAnswer r (request first) (answer first) (.ok page))
    (houtcome : e.outcome = others.outcome.map (page.items ++ ·))
    (hrequests : e.requests = request first :: others.requests) :
    Fetched id r request answer first last e := by
  have horder := h.order
  have hrange : List.range' first (last + 1 - first) =
      first :: List.range' (first + 1) (last + 1 - (first + 1)) := by
    rw [show last + 1 - first = last + 1 - (first + 1) + 1 by omega, List.range'_succ]
  refine ⟨by omega, fun k hk hlast => ?_, h.ends, ?_, ?_⟩
  · by_cases hfirst : k = first
    · rw [hfirst]
      exact hgo
    · exact h.goes_on k (by omega) hlast
  · rw [hrequests, h.requests, hrange, List.map_cons]
  · rcases h.outcome with ⟨f, hf, hothers⟩ | ⟨pages, hpages, hothers⟩
    · exact .inl ⟨f, hf, by rw [houtcome, hothers]; rfl⟩
    · refine .inr ⟨page :: pages, ?_, ?_⟩
      · rw [hrange]
        exact .cons hpage hpages
      · rw [houtcome, hothers]
        rfl

theorem Fetched.single {request : Nat → WebRequest} {answer : Nat → WebAnswer} {number : Nat}
    {e : Exchange (List Json)} (hends : EndsList r (request number) (answer number) number)
    (hrequests : e.requests = [request number])
    (houtcome : (∃ f, PageAnswer r (request number) (answer number) (.error f) ∧
        e.outcome = .error f) ∨
      ∃ page, PageAnswer r (request number) (answer number) (.ok page) ∧
        e.outcome = .ok page.items) :
    Fetched id r request answer number number e := by
  have hrange : List.range' number (number + 1 - number) = [number] := by
    rw [Nat.add_sub_cancel_left, List.range'_one]
  refine ⟨Nat.le_refl _, fun k hk hlast => by omega, hends, ?_, ?_⟩
  · rw [hrequests, hrange, List.map_singleton]
  · rcases houtcome with hfailed | ⟨page, hpage, hitems⟩
    · exact .inl hfailed
    · refine .inr ⟨[page], ?_, ?_⟩
      · rw [hrange]
        exact .cons hpage .nil
      · rw [hitems, List.flatMap_singleton]
        rfl

/-- By induction on the pages that may still be asked for behind the next one. The requests that
came before count the pages that were fetched. -/
theorem fetchPages_run {request : Nat → WebRequest}
    (hrequest : ∀ k, p.webRequest token r (some k) = .ok (request k)) (transport : Transport)
    (start : Nat) {left number : Nat} (hnumber : maxPages - left = number) (hpos : 1 ≤ number) :
    ∃ last, Fetched id r request (fun k => transport (start + (k - 1)) (request k)) number last
      (p.fetchPages transport token r left (start + (number - 1))) := by
  induction left using Nat.strongRecOn generalizing number with
  | ind left ih =>
    have hanswer := pageAnswer_readPage r (request number)
      (transport (start + (number - 1)) (request number))
    cases fetchPages_step hnumber (hrequest number) (start + (number - 1)) with
    | @failed f hread houtcome hrequests =>
      rw [hread] at hanswer
      exact ⟨number, .single (.inl ⟨f, hanswer⟩) hrequests (.inl ⟨f, hanswer, houtcome⟩)⟩
    | @last page hread hlast houtcome hrequests =>
      rw [hread] at hanswer
      have hends : EndsList r (request number)
          (transport (start + (number - 1)) (request number)) number := by
        rcases hlast with hpages | hleft
        · exact .inr (.inl ⟨page, hanswer, hpages⟩)
        · rw [hleft] at hnumber
          exact .inr (.inr hnumber.symm)
      exact ⟨number, .single hends hrequests (.inr ⟨page, hanswer, houtcome⟩)⟩
    | @more page rest hread hmore hleft houtcome hrequests =>
      rw [hread] at hanswer
      have hnext : maxPages - rest = number + 1 := by omega
      obtain ⟨last, hothers⟩ := ih rest (by omega) hnext (by omega)
      have hcount : start + (number + 1 - 1) = start + (number - 1) + 1 := by omega
      rw [hcount] at hothers
      have hcap : number ≠ 50 := by
        unfold maxPages at hnumber
        omega
      exact ⟨last, hothers.cons (not_endsList hread hmore hcap) hanswer houtcome hrequests⟩

end

theorem Fetched.last_le {α : Type} {join : List Json → α} {r : Request.Prepared}
    {request : Nat → WebRequest} {answer : Nat → WebAnswer} {first last : Nat} {e : Exchange α}
    (h : Fetched join r request answer first last e) (hfirst : first ≤ 50) : last ≤ 50 := by
  by_contra hlast
  exact h.goes_on 50 hfirst (by omega) (.inr (.inr rfl))

/-! ## Calls that list -/

/-- Requests with a token can be sent to an address. -/
structure Reaches (p : Provider) (token : String) (r : Request.Prepared) (url : Net.Url) :
    Prop where
  address : Net.Url.parse (p.baseUrl ++ r.path) = .ok url
  host : url.host.isSome = true
  token : token.toList.all isHeaderChar = true
  scheme : url.scheme = "http" ∨ url.scheme = "https"

/-- The request for one page of the list at an address. -/
def pageRequest (token : String) (url : Net.Url) (number : Nat) : WebRequest :=
  { method := .get
    url := url.addQuery [("page", toString number), ("page_size", "500")]
    token
    body := none }

theorem scheme_addQuery (url : Net.Url) (pairs : List (String × String)) :
    (url.addQuery pairs).scheme = url.scheme := by
  unfold Net.Url.addQuery
  split
  · rfl
  · rfl

theorem Reaches.webRequest {p : Provider} {token : String} {r : Request.Prepared} {url : Net.Url}
    (h : p.Reaches token r url) (hmethod : r.method = .get) (hbody : r.body = none)
    (number : Nat) :
    p.webRequest token r (some number) = .ok (pageRequest token url number) := by
  have hhost : url.host.isNone = false := by
    rw [Option.isNone_eq_false_iff]
    exact h.host
  simp only [Provider.webRequest, h.address, hhost, h.token, scheme_addQuery, if_pos h.scheme,
    hmethod, hbody]
  rfl

theorem webRequest_unreached {p : Provider} {token : String} {r : Request.Prepared}
    (h : ∀ url, ¬ p.Reaches token r url) (page : Option Nat) :
    ∃ reason, p.webRequest token r page = .error (.connection reason) := by
  unfold webRequest
  split
  · exact ⟨_, rfl⟩
  · rename_i url haddress
    simp only [scheme_addQuery]
    split
    · exact ⟨_, rfl⟩
    · rename_i hhost
      split
      · exact ⟨_, rfl⟩
      · rename_i htoken
        split
        · rename_i hscheme
          refine absurd ⟨haddress, ?_, ?_, hscheme⟩ (h url)
          · rwa [Bool.not_eq_true, Option.isNone_eq_false_iff] at hhost
          · rwa [Bool.not_eq_true, Bool.not_eq_false'] at htoken
        · exact ⟨_, rfl⟩

theorem fetchPages_unreached {p : Provider} {token : String} {r : Request.Prepared}
    (h : ∀ url, ¬ p.Reaches token r url) (transport : Transport) (left before : Nat) :
    (p.fetchPages transport token r left before).requests = [] ∧
      ∃ reason, (p.fetchPages transport token r left before).outcome =
        .error (.connection reason) := by
  obtain ⟨reason, hreason⟩ := webRequest_unreached h (some (maxPages - left))
  have hsend : p.send transport token r (some (maxPages - left)) before =
      { outcome := .error (.connection reason)
        log := [⟨.debug, r.method.name ++ " " ++ r.path⟩] } := by
    simp only [send, hreason]
  unfold fetchPages
  simp only [hsend]
  exact ⟨trivial, reason, rfl⟩

theorem routes_listing : ∀ p ∈ Request.routes, isListing p.1 = true → p.2.method = .get := by
  decide

/-- What lists is asked for without a body. -/
theorem prepare_listing {operation : String} {call : ToolCall} {r : Request.Prepared}
    (hlist : isListing operation = true) (hr : Request.prepare operation call = .ok r) :
    r.method = .get ∧ r.body = none := by
  cases hroute : Request.routeOf? operation with
  | none =>
    simp only [Request.prepare, hroute] at hr
    contradiction
  | some route =>
    have hget := routes_listing _ (Request.mem_routes_of_routeOf? hroute) hlist
    rcases Request.prepare_eq hroute call with ⟨-, f, -, herror⟩ | ⟨arguments, hprepare, -⟩
    · rw [herror] at hr
      contradiction
    · rw [hprepare] at hr
      obtain ⟨⟨segments, left⟩, -, hok⟩ := bind_eq_ok.mp hr
      obtain rfl := Except.ok.inj hok
      have hbodiless : route.method.hasBody = false := by
        rw [hget]
        rfl
      exact ⟨hget, if_neg (by simp [hbodiless])⟩

theorem Fetched.map {α : Type} {r : Request.Prepared} {request : Nat → WebRequest}
    {answer : Nat → WebAnswer} {first last : Nat} {e : Exchange (List Json)}
    (h : Fetched id r request answer first last e) (join : List Json → α) :
    Fetched join r request answer first last
      { outcome := e.outcome.map join, requests := e.requests, log := e.log } := by
  refine ⟨h.order, h.goes_on, h.ends, h.requests, ?_⟩
  rcases h.outcome with ⟨f, hf, houtcome⟩ | ⟨pages, hpages, houtcome⟩
  · exact .inl ⟨f, hf, by rw [houtcome]; rfl⟩
  · exact .inr ⟨pages, hpages, by rw [houtcome]; rfl⟩

theorem dispatch_eq {baseUrl token operation : String} {call : ToolCall} {r : Request.Prepared}
    (htoken : Text.isBlankText token = false) (hlist : isListing operation = true)
    (hr : Request.prepare operation call = .ok r) (transport : Transport) (before : Nat) :
    (ofSettings baseUrl (some token)).dispatch transport before operation call =
      (ofSettings baseUrl (some token)).fetchAll transport token r before := by
  have hkept : (ofSettings baseUrl (some token)).token = some token := by
    simp [ofSettings, htoken]
  unfold dispatch
  simp only [hr, hkept, (prepare_listing hlist hr).1, hlist]
  rfl

/-- A call that lists fetches the pages from the first on, each of them once, up to the first answer
that ends the list, and fails or joins the items of all pages. Nothing is sent where no request can
be sent. -/
theorem dispatch_list {baseUrl token operation : String} {call : ToolCall} {r : Request.Prepared}
    (htoken : Text.isBlankText token = false) (hlist : isListing operation = true)
    (hr : Request.prepare operation call = .ok r) (transport : Transport) (before : Nat) :
    let p := ofSettings baseUrl (some token)
    let e := p.dispatch transport before operation call
    (∃ url last, p.Reaches token r url ∧ last ≤ 50 ∧
        Fetched Json.arr r (pageRequest token url)
          (fun k => transport (before + (k - 1)) (pageRequest token url k)) 1 last e) ∨
      (∀ url, ¬ p.Reaches token r url) ∧ e.requests = [] ∧
        ∃ reason, e.outcome = .error (.connection reason) := by
  intro p e
  have he : e = p.fetchAll transport token r before :=
    dispatch_eq htoken hlist hr transport before
  rw [he]
  by_cases hreach : ∃ url, p.Reaches token r url
  · obtain ⟨url, hurl⟩ := hreach
    obtain ⟨hmethod, hbody⟩ := prepare_listing hlist hr
    have hfirst : maxPages - (maxPages - 1) = 1 := by decide
    obtain ⟨last, hfetched⟩ := fetchPages_run (hurl.webRequest hmethod hbody) transport before
      hfirst (Nat.le_refl 1)
    exact .inl ⟨url, last, hurl, hfetched.last_le (by decide), hfetched.map Json.arr⟩
  · have hnone : ∀ url, ¬ p.Reaches token r url := fun url hurl => hreach ⟨url, hurl⟩
    obtain ⟨hrequests, reason, houtcome⟩ :=
      fetchPages_unreached hnone transport (maxPages - 1) before
    refine .inr ⟨hnone, hrequests, reason, ?_⟩
    show (fetchPages p transport token r (maxPages - 1) before).outcome.map Json.arr = _
    rw [houtcome]
    rfl

/-- The number of pages grows while they are fetched, and one of them is empty. -/
theorem dispatch_list_growing :
    let r : Request.Prepared := { method := .get, path := "/volumes", body := none }
    let transport : Transport := fun before _ =>
      .response 200
        (["\x7b\"data\": [\"a\", \"b\"], \"pages\": 2\x7d", "\x7b\"data\": [], \"pages\": 3\x7d",
          "\x7b\"data\": [\"c\"], \"pages\": 3\x7d"].getD before "")
    let e := (ofSettings "https://c.io/" (some "secret")).dispatch transport 0
      "list_volumes" ⟨"list_volumes", []⟩
    (∃ url last, last ≤ 50 ∧ Fetched Json.arr r (pageRequest "secret" url)
        (fun k => transport (0 + (k - 1)) (pageRequest "secret" url k)) 1 last e) ∧
      e.requests.map (fun sent => (sent.method, sent.url.render)) =
        [(.get, "https://c.io/volumes?page=1&page_size=500"),
          (.get, "https://c.io/volumes?page=2&page_size=500"),
          (.get, "https://c.io/volumes?page=3&page_size=500")] ∧
      (e.outcome.toOption.bind Json.arr?).map (·.map Json.str?) =
        some [some "a", some "b", some "c"] := by
  intro r transport e
  have hprepare : Request.prepare "list_volumes" ⟨"list_volumes", []⟩ = .ok r := by rfl
  have hrequests : e.requests.map (fun sent => (sent.method, sent.url.render)) =
      [(.get, "https://c.io/volumes?page=1&page_size=500"),
        (.get, "https://c.io/volumes?page=2&page_size=500"),
        (.get, "https://c.io/volumes?page=3&page_size=500")] := by decide +kernel
  refine ⟨?_, hrequests, by decide +kernel⟩
  have htoken : Text.isBlankText "secret" = false := by decide +kernel
  have hlist : isListing "list_volumes" = true := by decide
  rcases @dispatch_list "https://c.io/" "secret" _ _ r htoken hlist hprepare transport 0
    with ⟨url, last, -, hlast, hfetched⟩ | ⟨-, hnone, -⟩
  · exact ⟨url, last, hlast, hfetched⟩
  · rw [hnone] at hrequests
    contradiction

end CloudGate.Gateway.Provider
