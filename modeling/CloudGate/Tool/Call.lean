import CloudGate.Gate
import CloudGate.Json.Printer
import CloudGate.Rule.Violation
import CloudGate.Text.Blank

/-!
A call of a tool: its name and its arguments, which are JSON values under names.
-/

namespace CloudGate

structure ToolCall where
  tool : String
  arguments : Fields Json

/-- The integer that a text denotes: digits after an optional sign, within 64 bits. -/
def parseInt64? (cs : List Char) : Option Int :=
  let number (digits : List Char) : Option Nat :=
    if digits.isEmpty || !digits.all Char.isDigit then none
    else some (digits.foldl (fun n c => n * 10 + (c.toNat - 48)) 0)
  let value : Option Int :=
    match cs with
    | '-' :: rest => (number rest).map fun n => -(n : Int)
    | '+' :: rest => (number rest).map fun n => (n : Int)
    | _ => (number cs).map fun n => (n : Int)
  value.filter fitsInt64

namespace ToolCall

def get? (call : ToolCall) (key : String) : Option Json := call.arguments.get? key

/-- The argument if it is a text. -/
def string? (call : ToolCall) (key : String) : Option String := (call.get? key).bind Json.str?

/-- The argument as text. What is missing or no text reads as empty. -/
def text (call : ToolCall) (key : String) : String := (call.string? key).getD ""

def bool? (call : ToolCall) (key : String) : Option Bool := (call.get? key).bind Json.bool?

/-- The argument as an integer, which may also be written as text. Null counts as missing. -/
def int? (call : ToolCall) (key : String) : Except Violation (Option Int) :=
  let invalid (v : Json) : Except Violation (Option Int) :=
    .error ⟨.invalidFormat, "got " ++ v.render ++ ": " ++ key ++ " must be an integer"⟩
  match call.get? key with
  | none | some .null => .ok none
  | some (.num (.int n)) => if fitsInt64 n then .ok (some n) else invalid (.num (.int n))
  | some (.str s) =>
    match parseInt64? (Text.trimChars s.toList) with
    | some n => .ok (some n)
    | none => invalid (.str s)
  | some v => invalid v

/-- Consent is the argument `confirm` with the value true, and nothing else. -/
def isConfirmed (call : ToolCall) : Bool := (call.bool? Gate.confirmName).getD false

end ToolCall

end CloudGate
