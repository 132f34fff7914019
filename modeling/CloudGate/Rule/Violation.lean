/-!
What a rule says about a value that breaks it: a kind from a closed list, for programs, and a
sentence, for people.
-/

namespace CloudGate

inductive Violation.Kind
  | required
  | invalidFormat
  | invalidLength
  | tooShort
  | tooLong
  | tooSmall
  | tooLarge
  | invalidCharacters
  | invalidBoundary
  | invalidEnumValue
  | outOfRange
  | invalidAddress
  | privateAddressRejected
  | missingCharacterClass
  | gateNotConfirmed
  deriving DecidableEq, Repr

namespace Violation.Kind

def all : List Kind :=
  [.required, .invalidFormat, .invalidLength, .tooShort, .tooLong, .tooSmall, .tooLarge,
   .invalidCharacters, .invalidBoundary, .invalidEnumValue, .outOfRange, .invalidAddress,
   .privateAddressRejected, .missingCharacterClass, .gateNotConfirmed]

def name : Kind → String
  | .required => "required"
  | .invalidFormat => "invalid_format"
  | .invalidLength => "invalid_length"
  | .tooShort => "too_short"
  | .tooLong => "too_long"
  | .tooSmall => "too_small"
  | .tooLarge => "too_large"
  | .invalidCharacters => "invalid_characters"
  | .invalidBoundary => "invalid_boundary"
  | .invalidEnumValue => "invalid_enum_value"
  | .outOfRange => "out_of_range"
  | .invalidAddress => "invalid_address"
  | .privateAddressRejected => "private_address_rejected"
  | .missingCharacterClass => "missing_character_class"
  | .gateNotConfirmed => "gate_not_confirmed"

end Violation.Kind

structure Violation where
  kind : Violation.Kind
  message : String
  deriving DecidableEq, Repr

namespace Violation

def required (field : String) : Violation := ⟨.required, field ++ " is required"⟩

/-- The violation seen from the list that holds the value. Positions count from zero. -/
def inEntry (v : Violation) (index : Nat) : Violation :=
  { v with message := "entry " ++ toString index ++ ": " ++ v.message }

end Violation

/-- The verdict of a rule. -/
abbrev Verdict := Except Violation Unit

namespace Verdict

/-- A value that meets the rule. -/
def pass : Verdict := .ok ()

def fail (kind : Violation.Kind) (message : String) : Verdict := .error ⟨kind, message⟩

/-- Fails unless the condition holds. -/
def require (condition : Bool) (kind : Violation.Kind) (message : String) : Verdict :=
  if condition then pass else fail kind message

def isPass : Verdict → Bool
  | .ok () => true
  | .error _ => false

/-- The first violation among the elements of a list, told with its position. -/
def eachFrom {α : Type} (rule : α → Verdict) (index : Nat) : List α → Verdict
  | [] => pass
  | a :: rest =>
    match rule a with
    | .ok () => eachFrom rule (index + 1) rest
    | .error v => .error (v.inEntry index)

def each {α : Type} (rule : α → Verdict) (items : List α) : Verdict := eachFrom rule 0 items

end Verdict

end CloudGate
