import CloudGate.Net.Ipv4

/-!
IPv6 addresses in text: eight groups of one to four hexadecimal digits, of which one run of zeros
may be left out as `::` and the last two may be written as an IPv4 address.
-/

namespace CloudGate.Net

def hexDigitValue? (c : Char) : Option Nat :=
  if '0' ≤ c ∧ c ≤ '9' then some (c.toNat - 48)
  else if 'a' ≤ c ∧ c ≤ 'f' then some (c.toNat - 87)
  else if 'A' ≤ c ∧ c ≤ 'F' then some (c.toNat - 55)
  else none

/-- The value of hexadecimal digits. -/
def hexValue? (cs : List Char) : Option Nat :=
  cs.foldlM (fun n c => (hexDigitValue? c).map (n * 16 + ·)) 0

def group? (cs : List Char) : Option Nat :=
  if !cs.isEmpty && cs.length ≤ 4 then hexValue? cs else none

namespace Ipv6

/-- Groups between colons. Where allowed, an IPv4 address at the end stands for two groups. -/
def groups? (dotted : Bool) : List (List Char) → Option (List Nat)
  | [] => some []
  | [last] =>
    match group? last with
    | some g => some [g]
    | none =>
      if dotted then (Ipv4.parse? last).map fun ip => [ip.a * 256 + ip.b, ip.c * 256 + ip.d]
      else none
  | first :: rest => do return (← group? first) :: (← groups? dotted rest)

/-- The groups of a part of an address. An empty part has none. -/
def part? (dotted : Bool) (cs : List Char) : Option (List Nat) :=
  if cs.isEmpty then some [] else groups? dotted (Text.splitBy ':' cs)

/-- The texts before and after the first `::`. -/
def splitGap? : List Char → Option (List Char × List Char)
  | ':' :: ':' :: rest => some ([], rest)
  | c :: rest => (splitGap? rest).map fun (before, after) => (c :: before, after)
  | [] => none

/-- The eight groups of an address. A gap stands for at least one group of zeros. -/
def parse? (cs : List Char) : Option (List Nat) :=
  match splitGap? cs with
  | none => do
    let groups ← part? true cs
    if groups.length = 8 then some groups else none
  | some (before, after) => do
    let front ← part? false before
    let back ← part? true after
    let given := front.length + back.length
    if given ≤ 7 then some (front ++ List.replicate (8 - given) 0 ++ back) else none

/-- Addresses that carry an IPv4 address: eighty zero bits and then sixteen ones. -/
def isMappedIpv4 (groups : List Nat) : Bool := groups.take 6 == [0, 0, 0, 0, 0, 0xFFFF]

end Ipv6

end CloudGate.Net
