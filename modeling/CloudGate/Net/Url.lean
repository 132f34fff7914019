import CloudGate.Net.Host

/-!
Addresses of the web, read as browsers read them: blanks around them are dropped, backslashes count
as slashes, dot segments are resolved, and what cannot stand as it is gets percent-encoded. Other
addresses are read as far as it takes to tell whether they are addresses.
-/

namespace CloudGate.Net

/-- An address without the user's name and password, which are not kept. -/
structure Url where
  scheme : String
  host : Option Host := none
  port : Option Nat := none
  path : String
  query : Option String := none
  fragment : Option String := none
  deriving DecidableEq, Repr

namespace Url

/-! ## Kinds of schemes -/

/-- The port of a scheme of the web. -/
def defaultPort? (scheme : String) : Option Nat :=
  if scheme = "http" ∨ scheme = "ws" then some 80
  else if scheme = "https" ∨ scheme = "wss" then some 443
  else if scheme = "ftp" then some 21
  else none

/-- Schemes whose addresses have a host, and in which backslashes are slashes. -/
def isWeb (scheme : String) : Bool := (defaultPort? scheme).isSome

def isSlash (web : Bool) (c : Char) : Bool := c == '/' || (web && c == '\\')

/-- The characters that end the host part. -/
def endsAuthority (web : Bool) (c : Char) : Bool := isSlash web c || c == '?' || c == '#'

/-! ## Parts -/

/-- The scheme, in lowercase, and the text after its colon. -/
def readScheme? (cs : List Char) : Option (String × List Char) :=
  let isSchemeChar (c : Char) : Bool := c.isAlphanum || c == '+' || c == '-' || c == '.'
  match cs.head?, cs.dropWhile isSchemeChar with
  | some first, ':' :: rest =>
    if first.isAlpha then
      some (String.ofList ((cs.takeWhile isSchemeChar).map Char.toLower), rest)
    else none
  | _, _ => none

/-- The text after the last `@`, if there is one, and whether something stands before it. -/
def afterCredentials (authority : List Char) : Bool × List Char :=
  let host := (authority.reverse.takeWhile (· != '@')).reverse
  (host.length + 1 < authority.length, host)

/-- The host with its brackets, up to the colon of the port. -/
def takeHost (inBrackets : Bool) : List Char → List Char × List Char
  | [] => ([], [])
  | c :: rest =>
    if c = ':' && !inBrackets then ([], c :: rest)
    else
      let inBrackets := if c = '[' then true else if c = ']' then false else inBrackets
      let (host, after) := takeHost inBrackets rest
      (c :: host, after)

/-- A port from 0 to 65535. No digits mean no port. -/
def readPort (cs : List Char) : Except UrlFault (Option Nat) :=
  if cs.isEmpty then .ok none
  else if !cs.all Char.isDigit then .error .invalidPort
  else
    let n := decimalValue cs
    if n ≤ 65535 then .ok (some n) else .error .invalidPort

/-- Reads host and port. A host may be missing only outside the web, and then has neither port nor
user. -/
def readAuthority (scheme : String) (authority : List Char) :
    Except UrlFault (Option Host × Option Nat) := do
  let web := isWeb scheme
  let (named, rest) := afterCredentials authority
  let (hostText, portText) := takeHost false rest
  if hostText.isEmpty && (web || named || !portText.isEmpty) then .error .emptyHost
  let host ← if web then Host.read hostText else Host.readOpaque hostText
  let port ← readPort (portText.drop 1)
  .ok (if hostText.isEmpty then none else some host,
    if port = defaultPort? scheme then none else port)

/-! ## Paths -/

def isPathChar (c : Char) : Bool :=
  0x20 < c.toNat && c.toNat < 0x7F && !(['"', '#', '<', '>', '?', '`', '{', '}'].contains c)

def isQueryChar (web : Bool) (c : Char) : Bool :=
  0x20 < c.toNat && c.toNat < 0x7F && !(['"', '#', '<', '>'].contains c) && !(web && c == '\'')

def isFragmentChar (c : Char) : Bool :=
  0x20 < c.toNat && c.toNat < 0x7F && !(['"', '<', '>', '`'].contains c)

def splitSegments (web : Bool) : List Char → List (List Char)
  | [] => [[]]
  | c :: rest =>
    if isSlash web c then [] :: splitSegments web rest
    else
      match splitSegments web rest with
      | [] => [[c]]
      | segment :: more => (c :: segment) :: more

/-- A dot may be written in percent-encoding. -/
def plainDots (segment : List Char) : List Char :=
  let rec go : List Char → List Char
    | '%' :: '2' :: e :: rest =>
      if e = 'e' ∨ e = 'E' then '.' :: go rest else '%' :: '2' :: e :: go rest
    | c :: rest => c :: go rest
    | [] => []
  go segment

/-- Resolves dot segments. `done` holds the segments so far in reverse. -/
def resolve (done : List (List Char)) : List (List Char) → List (List Char)
  | [] => done.reverse
  | segment :: rest =>
    let keep := Text.percentEncodeBut isPathChar segment
    match plainDots segment, rest with
    | ['.', '.'], [] => ([] :: done.drop 1).reverse
    | ['.', '.'], _ => resolve (done.drop 1) rest
    | ['.'], [] => ([] :: done).reverse
    | ['.'], _ => resolve done rest
    | _, _ => resolve (keep :: done) rest

/-- The path in its normal form. On the web it begins with a slash. -/
def readPath (web : Bool) (cs : List Char) : String :=
  if cs.isEmpty && !web then ""
  else
    let after := if cs.head?.any (isSlash web) then cs.drop 1 else cs
    String.join ((resolve [] (splitSegments web after)).map fun s => "/" ++ String.ofList s)

/-! ## Whole addresses -/

/-- Splits a text at the first place of a character, if there is one. -/
def cutAt (c : Char) (cs : List Char) : List Char × Option (List Char) :=
  match Text.splitFirst? c cs with
  | some (before, after) => (before, some after)
  | none => (cs, none)

/-- Puts an address together from a host part and the rest, whose path is read by `path`. -/
def assemble (scheme : String) (host : Option Host) (port : Option Nat)
    (path : List Char → String) (cs : List Char) : Url :=
  let (front, fragment) := cutAt '#' cs
  let (pathText, query) := cutAt '?' front
  { scheme, host, port
    path := path pathText
    query := query.map fun q =>
      String.ofList (Text.percentEncodeBut (isQueryChar (isWeb scheme || scheme == "file")) q)
    fragment := fragment.map fun f => String.ofList (Text.percentEncodeBut isFragmentChar f) }

/-- Reads what follows the slashes before a host. -/
def readHosted (scheme : String) (cs : List Char) : Except UrlFault Url := do
  let web := isWeb scheme
  let authority := cs.takeWhile fun c => !endsAuthority web c
  let rest := cs.dropWhile fun c => !endsAuthority web c
  if authority.getLast? = some '@' && (web || authority.length == 1) && !rest.isEmpty then
    .error .emptyHost
  let (host, port) ← readAuthority scheme authority
  .ok (assemble scheme host port (readPath web) rest)

/-- A letter and a colon or bar, which name a drive and not a host. -/
def isDrive : List Char → Bool
  | [letter, mark] => letter.isAlpha && (mark == ':' || mark == '|')
  | _ => false

/-- Reads an address of a file. Two slashes announce a host. -/
def readFile (cs : List Char) : Except UrlFault Url := do
  if cs.length ≥ 2 && (cs.take 2).all (isSlash true) then
    let after := cs.drop 2
    let hostText := after.takeWhile fun c => !endsAuthority true c
    if hostText.isEmpty || isDrive hostText then
      .ok (assemble "file" none none (readPath true) after)
    else
      let host ← Host.read hostText
      .ok (assemble "file" (some host) none (readPath true) (after.drop hostText.length))
  else .ok (assemble "file" none none (readPath true) cs)

/-- Control characters and spaces at the ends do not count, nor do tabs and line breaks anywhere. -/
def clean (cs : List Char) : List Char :=
  let isEdge (c : Char) : Bool := c.toNat ≤ 0x20
  (((cs.dropWhile isEdge).reverse.dropWhile isEdge).reverse).filter fun c =>
    c != '\t' && c != '\n' && c != '\r'

def parse (s : String) : Except UrlFault Url :=
  match readScheme? (clean s.toList) with
  | none => .error .relative
  | some (scheme, rest) =>
    if isWeb scheme then readHosted scheme (rest.dropWhile (isSlash true))
    else if scheme = "file" then readFile rest
    else
      match rest with
      | '/' :: '/' :: after => readHosted scheme after
      | '/' :: _ => .ok (assemble scheme none none (readPath false) rest)
      | _ =>
        let opaqueText (cs : List Char) : String :=
          String.ofList (Text.percentEncodeBut (fun c => 0x20 ≤ c.toNat && c.toNat < 0x7F) cs)
        .ok (assemble scheme none none opaqueText rest)

/-- Adds parameters to the query, which need no encoding. -/
def addQuery (u : Url) (pairs : List (String × String)) : Url :=
  if pairs.isEmpty then u
  else
    let added := "&".intercalate (pairs.map fun (name, value) => name ++ "=" ++ value)
    { u with
      query :=
        match u.query with
        | none | some "" => some added
        | some q => some (q ++ "&" ++ added) }

/-- What a request for the address asks the host for. -/
def target (u : Url) : String :=
  u.path ++
    match u.query with
    | some q => "?" ++ q
    | none => ""

def render (u : Url) : String :=
  u.scheme ++ ":" ++
    (match u.host with
     | some h =>
       "//" ++ h.render ++
         match u.port with
         | some p => ":" ++ toString p
         | none => ""
     | none => if u.scheme = "file" then "//" else "") ++
    u.target ++
    match u.fragment with
    | some f => "#" ++ f
    | none => ""

end Url

end CloudGate.Net
