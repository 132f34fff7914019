import CloudGate.Decimal.Binary64
import CloudGate.Fields

/-!
JSON values. An object lists its members in order of their names, each name once.
-/

namespace CloudGate

/-- A number of a document: an integer within 64 bits, signed or unsigned, or a binary64 number. -/
inductive Json.Number
  | int (n : Int)
  | real (x : Decimal.Binary64)
  deriving DecidableEq, Repr

inductive Json
  | null
  | bool (b : Bool)
  | num (n : Json.Number)
  | str (s : String)
  | arr (items : List Json)
  | obj (members : List (String × Json))
  deriving Inhabited

namespace Json

def int (n : Int) : Json := .num (.int n)

def nat (n : Nat) : Json := .int n

/-- An object from members in any order. -/
def object (members : List (String × Json)) : Json := .obj (Fields.ofList members)

def strings (items : List String) : Json := .arr (items.map .str)

/-- The text of an optional value, or null. -/
def ofOption {α : Type} (f : α → Json) : Option α → Json
  | some a => f a
  | none => .null

def get? (name : String) : Json → Option Json
  | .obj members => Fields.get? members name
  | _ => none

def str? : Json → Option String
  | .str s => some s
  | _ => none

def bool? : Json → Option Bool
  | .bool b => some b
  | _ => none

def arr? : Json → Option (List Json)
  | .arr items => some items
  | _ => none

/-- The value of an unsigned integer. -/
def nat? : Json → Option Nat
  | .num (.int n) => if 0 ≤ n then some n.toNat else none
  | _ => none

end Json

/-- Bounds of signed and unsigned 64-bit integers. -/
def maxInt64 : Int := 9223372036854775807

def minInt64 : Int := -9223372036854775808

def maxUInt64 : Int := 18446744073709551615

def fitsInt64 (n : Int) : Bool := minInt64 ≤ n && n ≤ maxInt64

end CloudGate
