import CloudGate.Text.Split

/-!
IPv4 addresses in dotted form: four decimal numerals from 0 to 255 without leading zeros.
-/

namespace CloudGate.Net

structure Ipv4 where
  a : Nat
  b : Nat
  c : Nat
  d : Nat
  deriving DecidableEq, Repr

/-- The value of ASCII decimal digits. -/
def decimalValue (cs : List Char) : Nat := cs.foldl (fun n c => n * 10 + (c.toNat - 48)) 0

def octet? (cs : List Char) : Option Nat :=
  let n := decimalValue cs
  if !cs.isEmpty && cs.length ≤ 3 && cs.all Char.isDigit && (cs.length == 1 || cs.head? != some '0')
      && n ≤ 255 then
    some n
  else none

namespace Ipv4

def parse? (cs : List Char) : Option Ipv4 :=
  match Text.splitBy '.' cs with
  | [w, x, y, z] => do return ⟨← octet? w, ← octet? x, ← octet? y, ← octet? z⟩
  | _ => none

/-- Addresses that begin with 127. -/
def isLoopback (ip : Ipv4) : Bool := ip.a == 127

/-- Addresses that begin with 10, with 172.16 to 172.31, or with 192.168. -/
def isPrivate (ip : Ipv4) : Bool :=
  ip.a == 10 || (ip.a == 172 && 16 ≤ ip.b && ip.b ≤ 31) || (ip.a == 192 && ip.b == 168)

end Ipv4

end CloudGate.Net
