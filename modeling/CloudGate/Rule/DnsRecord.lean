import CloudGate.Net.Ipv6
import CloudGate.Rule.DnsName
import CloudGate.Text.Choice

/-!
Rules for zones and their records: record types, targets by type, zone types and lifetimes.
-/

namespace CloudGate

inductive RecordType
  | a
  | aaaa
  | cname
  | mx
  | ns
  | txt
  | srv
  | caa
  deriving DecidableEq, Repr

namespace RecordType

def all : List RecordType := [.a, .aaaa, .cname, .mx, .ns, .txt, .srv, .caa]

def name : RecordType → String
  | .a => "A"
  | .aaaa => "AAAA"
  | .cname => "CNAME"
  | .mx => "MX"
  | .ns => "NS"
  | .txt => "TXT"
  | .srv => "SRV"
  | .caa => "CAA"

def names : List String := all.map name

/-- Reads a record type, in any case. -/
def parse (s : String) : Except Violation RecordType :=
  if s.isEmpty then .error (.required "type")
  else
    match all.find? fun t => Text.eqFold s t.name with
    | some t => .ok t
    | none =>
      .error ⟨.invalidEnumValue,
        "got '" ++ s ++ "': record type must be one of " ++ Text.describeChoice names⟩

end RecordType

namespace Rule

def domainTypes : List String := ["master", "slave"]

/-- Bounds of a lifetime in seconds, 0 apart, which means the default of the zone. -/
def ttlMin : Int := 30

def ttlMax : Int := 604800

/-- The target of an A record is a public IPv4 address. -/
def ipv4Target (target : String) : Verdict :=
  if target.isEmpty then .error (.required "target")
  else
    match Net.Ipv4.parse? target.toList with
    | none =>
      .fail .invalidAddress ("got '" ++ target ++ "': A record target must be a valid IPv4 address")
    | some ip =>
      .require (!(ip.isLoopback || ip.isPrivate)) .privateAddressRejected
        ("got '" ++ target ++ "': A record target must be a public address, not loopback " ++
          "(127.0.0.0/8) or private (10.0.0.0/8, 172.16.0.0/12, 192.168.0.0/16)")

/-- The target of an AAAA record is an IPv6 address that does not stand for an IPv4 address. -/
def ipv6Target (target : String) : Verdict :=
  let disguised : Verdict :=
    .fail .invalidAddress
      ("got '" ++ target ++ "': AAAA record target must be an IPv6 address, not IPv4")
  if target.isEmpty then .error (.required "target")
  else if (Net.Ipv4.parse? target.toList).isSome then disguised
  else
    match Net.Ipv6.parse? target.toList with
    | some groups => if Net.Ipv6.isMappedIpv4 groups then disguised else .pass
    | none =>
      .fail .invalidAddress
        ("got '" ++ target ++ "': AAAA record target must be a valid IPv6 address")

/-- The targets of TXT, SRV and CAA records are free text. -/
def recordTarget (type : RecordType) (target : String) : Verdict :=
  match type with
  | .a => ipv4Target target
  | .aaaa => ipv6Target target
  | .cname | .ns | .mx => hostnameTarget target
  | .txt | .srv | .caa => if target.isEmpty then .error (.required "target") else .pass

def domainType (type : String) : Verdict :=
  .require (domainTypes.contains type) .invalidEnumValue
    ("got '" ++ type ++ "': domain type must be " ++ Text.describeChoice domainTypes)

def ttl (seconds : Int) : Verdict :=
  .require (seconds == 0 || (ttlMin ≤ seconds && seconds ≤ ttlMax)) .outOfRange
    ("got " ++ toString seconds ++ ": ttl_sec must be 0 or between " ++ toString ttlMin ++
      " and " ++ toString ttlMax ++ " seconds")

end Rule

end CloudGate
