import CloudGate.Net.Domain.Name
import CloudGate.Net.Ipv6
import CloudGate.Text.Percent

/-!
Hosts in addresses: domain names, IPv4 addresses in all their spellings, and IPv6 addresses in
brackets. A domain name is turned to its ASCII form.
-/

namespace CloudGate.Net

inductive Host
  | domain (name : String)
  | ipv4 (value : Nat)
  | ipv6 (groups : List Nat)
  deriving DecidableEq, Repr

/-- Why an address is none. -/
inductive UrlFault
  | relative
  | emptyHost
  | invalidDomain
  | invalidCharacter
  | invalidPort
  | invalidIpv4
  | invalidIpv6
  deriving DecidableEq, Repr

def UrlFault.message : UrlFault → String
  | .relative => "relative URL without a base"
  | .emptyHost => "empty host"
  | .invalidDomain => "invalid international domain name"
  | .invalidCharacter => "invalid domain character"
  | .invalidPort => "invalid port number"
  | .invalidIpv4 => "invalid IPv4 address"
  | .invalidIpv6 => "invalid IPv6 address"

namespace Host

/-! ## IPv4 in all spellings -/

/-- A part of an IPv4 address: decimal, octal after `0`, or hexadecimal after `0x`. -/
def ipv4Part? (cs : List Char) : Option Nat :=
  let numeral (base : Nat) (isDigit : Char → Bool) (digits : List Char) : Option Nat :=
    if digits.all isDigit then
      some (digits.foldl (fun n c => n * base + (hexDigitValue? c).getD 0) 0)
    else none
  match cs with
  | [] => none
  | '0' :: 'x' :: rest | '0' :: 'X' :: rest =>
    numeral 16 (fun c => (hexDigitValue? c).isSome) rest
  | '0' :: d :: rest => numeral 8 (fun c => '0' ≤ c && c ≤ '7') (d :: rest)
  | _ => numeral 10 Char.isDigit cs

/-- The parts of a name, without an empty one after a dot at the end. -/
def ipv4Parts (cs : List Char) : List (List Char) :=
  let parts := Text.splitBy '.' cs
  if parts.getLast? = some [] then parts.dropLast else parts

/-- Names whose last part is a number are IPv4 addresses or nothing. -/
def endsInNumber (cs : List Char) : Bool :=
  match (ipv4Parts cs).getLast? with
  | none => false
  | some last => (!last.isEmpty && last.all Char.isDigit) || (ipv4Part? last).isSome

/-- The last number fills all the bytes that the others leave. -/
def ipv4Value? (cs : List Char) : Option Nat := do
  let parts := ipv4Parts cs
  if 4 < parts.length then none
  let numbers ← parts.mapM ipv4Part?
  let last ← numbers.getLast?
  let front := numbers.dropLast
  if front.any (255 < ·) || Nat.pow 256 (4 - front.length) ≤ last then none
  else some (front.foldr (fun n value => value / 256 + n * Nat.pow 256 3) 0 + last)

/-! ## Percent-encoding -/

/-- Undoes percent-encoding, as far as the result is UTF-8 text. -/
def percentDecode? (cs : List Char) : Option (List Char) :=
  let bytes : List Char → List UInt8 := fun cs => cs.flatMap fun c => (Text.utf8 c).map Nat.toUInt8
  let rec go : List Char → List UInt8
    | '%' :: a :: b :: rest =>
      match hexDigitValue? a, hexDigitValue? b with
      | some x, some y => (x * 16 + y).toUInt8 :: go rest
      | _, _ => bytes ['%'] ++ go (a :: b :: rest)
    | c :: rest => bytes [c] ++ go rest
    | [] => []
  (String.fromUTF8? (go cs).toByteArray).map String.toList

/-! ## Reading and writing -/

/-- A host inside brackets is an IPv6 address. -/
def readBracketed (rest : List Char) : Except UrlFault Host :=
  if rest.getLast? = some ']' then
    match Ipv6.parse? rest.dropLast with
    | some groups => .ok (.ipv6 groups)
    | none => .error .invalidIpv6
  else .error .invalidIpv6

/-- Reads the host of an address on the web. -/
def read (cs : List Char) : Except UrlFault Host :=
  match cs with
  | '[' :: rest => readBracketed rest
  | _ =>
    match (percentDecode? cs).bind Domain.asciiName? with
    | none => .error .invalidDomain
    | some [] => .error .emptyHost
    | some name =>
      if endsInNumber name then
        match ipv4Value? name with
        | some value => .ok (.ipv4 value)
        | none => .error .invalidIpv4
      else .ok (.domain (String.ofList name))

/-- Reads the host of any other address, which is kept as it is. -/
def readOpaque (cs : List Char) : Except UrlFault Host :=
  let isRefused (c : Char) : Bool :=
    c.toNat == 0 || c == ' ' || "#/:<>?@[\\]^|".toList.contains c
  match cs with
  | '[' :: rest => readBracketed rest
  | _ =>
    if cs.any isRefused then .error .invalidCharacter
    else
      .ok (.domain (String.ofList
        (Text.percentEncodeBut (fun c => 0x20 ≤ c.toNat && c.toNat < 0x7F) cs)))

/-- The first longest run of at least two zeros: its start and its length. -/
def zeroRun (groups : List Nat) : Option (Nat × Nat) :=
  let runAt (i : Nat) : Nat := ((groups.drop i).takeWhile (· == 0)).length
  let best := ((List.range groups.length).map runAt).foldl max 0
  if best < 2 then none
  else ((List.range groups.length).find? fun i => runAt i == best).map fun i => (i, best)

def renderGroups (groups : List Nat) : String :=
  ":".intercalate (groups.map fun g => String.ofList (Nat.toDigits 16 g))

def render : Host → String
  | .domain name => name
  | .ipv4 value =>
    ".".intercalate ([3, 2, 1, 0].map fun i => toString (value / Nat.pow 256 i % 256))
  | .ipv6 groups =>
    match zeroRun groups with
    | none => "[" ++ renderGroups groups ++ "]"
    | some (start, length) =>
      "[" ++ renderGroups (groups.take start) ++ "::" ++
        renderGroups (groups.drop (start + length)) ++ "]"

end Host

end CloudGate.Net
