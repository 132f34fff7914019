import CloudGate.Gateway.DryRun
import CloudGate.Gateway.Web

/-!
The gateway to the provider. A request is prepared before the token is asked for, so a call that
cannot become a request fails in the same way with and without a token. Lists are fetched page by
page and joined.
-/

namespace CloudGate.Gateway

/-- Where and as whom requests are sent. The address has no slash at its end, the token is not
blank. -/
structure Provider where
  baseUrl : String
  token : Option String

/-- What one call brings about. -/
structure Exchange (α : Type) where
  outcome : Except Failure α
  requests : List WebRequest := []
  log : Log := []

namespace Provider

def dropSlashes (s : String) : String :=
  String.ofList (s.toList.reverse.dropWhile (· == '/')).reverse

def ofSettings (baseUrl : String) (token : Option String) : Provider :=
  { baseUrl := dropSlashes baseUrl, token := token.filter fun t => !Text.isBlankText t }

/-- Items on one page of a list. -/
def pageSize : Nat := 500

/-- Pages that are fetched for one list. -/
def maxPages : Nat := 50

/-! ## One request -/

def pageQuery (page : Nat) : List (String × String) :=
  [("page", toString page), ("page_size", toString pageSize)]

/-- The request that is sent, unless the address or the token is unfit for it. -/
def webRequest (p : Provider) (token : String) (r : Request.Prepared) (page : Option Nat) :
    Except Failure WebRequest :=
  match Net.Url.parse (p.baseUrl ++ r.path) with
  | .error _ => .error (.connection "builder error")
  | .ok url =>
    let refused (url : Net.Url) : Except Failure WebRequest :=
      .error (.connection ("builder error for url (" ++ url.render ++ ")"))
    if url.host.isNone then refused url
    else if !token.toList.all isHeaderChar then .error (.connection "builder error")
    else
      let url := url.addQuery ((page.map pageQuery).getD [])
      if url.scheme = "http" ∨ url.scheme = "https" then
        .ok { method := r.method, url, token, body := r.body }
      else refused url

/-- One reason of an error answer, behind the field that it is about. -/
def reasonText? (e : Json) : Option String := do
  let reason ← (e.get? "reason").bind Json.str?
  match (e.get? "field").bind Json.str? with
  | some field => some (field ++ ": " ++ reason)
  | none => some reason

/-- The reasons that the provider gives in an error answer. -/
def errorMessage? (body : String) : Option String := do
  let parsed ← (Json.parse body).toOption
  let errors ← (parsed.get? "errors").bind Json.arr?
  let reasons := errors.filterMap reasonText?
  if reasons.isEmpty then none else some ("; ".intercalate reasons)

/-- The failure that an answer without success means. -/
def statusFailure (status : Nat) (path body : String) : Failure :=
  let reason := (errorMessage? body).getD (Net.Status.phrase status)
  if status = 401 ∨ status = 403 then .unauthorized reason
  else if status = 404 then .notFound path
  else .requestFailed status reason

/-- What an answer means. An empty body is an empty object. -/
def interpret (r : Request.Prepared) (sent : WebRequest) : WebAnswer → Except Failure Json
  | .dropped => .error (.connection ("error sending request for url (" ++ sent.url.render ++ ")"))
  | .late => .error .timeout
  | .response status body =>
    let text := bodyText status body
    if !Net.Status.isSuccess status then .error (statusFailure status r.path text)
    else if Text.isBlankText text then .ok (.obj [])
    else
      match Json.parse text with
      | .ok v => .ok v
      | .error fault => .error (.invalidResponse (fault.message text.toList))

/-- Sends one request. -/
def send (p : Provider) (transport : Transport) (token : String) (r : Request.Prepared)
    (page : Option Nat) (before : Nat) : Exchange Json :=
  let log : Log := [⟨.debug, r.method.name ++ " " ++ r.path⟩]
  match p.webRequest token r page with
  | .error f => { outcome := .error f, log }
  | .ok request =>
    { outcome := interpret r request (transport before request), requests := [request], log }

/-! ## Lists -/

/-- The number of pages that an answer reports. -/
def pageCount (body : Json) : Nat := ((body.get? "pages").bind Json.nat?).getD 1

/-- Fetches the last `left + 1` of the pages that may be fetched. -/
def fetchPages (p : Provider) (transport : Transport) (token : String) (r : Request.Prepared) :
    Nat → Nat → Exchange (List Json)
  | left, before =>
    let page := maxPages - left
    let first := p.send transport token r (some page) before
    match first.outcome with
    | .error f => { first with outcome := .error f }
    | .ok body =>
      match (body.get? "data").bind Json.arr? with
      | none =>
        { first with
          outcome := .error (.invalidResponse (r.path ++ " returned no data list")) }
      | some items =>
        let pages := pageCount body
        if pages ≤ page then { first with outcome := .ok items }
        else
          match left with
          | 0 =>
            { first with
              outcome := .ok items
              log := first.log ++
                [⟨.warn, r.path ++ ": stopping after " ++ toString maxPages ++ " pages of " ++
                  toString pages⟩] }
          | left + 1 =>
            let others := fetchPages p transport token r left (before + first.requests.length)
            { outcome := others.outcome.map (items ++ ·)
              requests := first.requests ++ others.requests
              log := first.log ++ others.log }

/-- Fetches a list from its first page on. -/
def fetchAll (p : Provider) (transport : Transport) (token : String) (r : Request.Prepared)
    (before : Nat) : Exchange Json :=
  let e := p.fetchPages transport token r (maxPages - 1) before
  { e with outcome := e.outcome.map .arr }

/-! ## Calls -/

/-- Runs a call after `before` requests. -/
def dispatch (p : Provider) (transport : Transport) (before : Nat) (operation : String)
    (call : ToolCall) : Exchange Json :=
  match Request.prepare operation call, p.token with
  | .error f, _ => { outcome := .error f }
  | .ok _, none => { outcome := .error .missingToken }
  | .ok r, some token =>
    if r.method = .get && isListing operation then p.fetchAll transport token r before
    else p.send transport token r none before

/-- The gateway to the provider. Every call starts a count of requests of its own. -/
def gateway (p : Provider) (transport : Transport) : Gateway := fun operation call =>
  let e := p.dispatch transport 0 operation call
  { outcome := e.outcome, log := e.log }

end Provider

end CloudGate.Gateway
