import CloudGate.Decimal.Text
import CloudGate.Text.Quoted

/-!
What can be wrong with JSON: text that is not JSON, and values of another shape than wanted, with
the sentence that says so and the place in the text.
-/

namespace CloudGate.Json

/-- The value that stood where another was wanted. -/
inductive Found
  | null
  | bool (b : Bool)
  | int (n : Int)
  | real (x : Decimal.Binary64)
  | str (s : String)
  | seq
  | map
  | unitVariant
  | newtypeVariant
  | tupleVariant
  | structVariant

def Found.describe : Found → String
  | .null => "null"
  | .bool true => "boolean `true`"
  | .bool false => "boolean `false`"
  | .int n => "integer `" ++ toString n ++ "`"
  | .real x => "floating point `" ++ x.renderPositional true ++ "`"
  | .str s => "string " ++ Text.quoted s
  | .seq => "sequence"
  | .map => "map"
  | .unitVariant => "unit variant"
  | .newtypeVariant => "newtype variant"
  | .tupleVariant => "tuple variant"
  | .structVariant => "struct variant"

/-- A value does not have the wanted shape. -/
inductive ShapeError
  | invalidType (found : Found) (expected : String)
  | invalidValue (found : Found) (expected : String)
  | invalidLength (length : Nat) (expected : String)
  | missingField (name : String)
  | duplicateField (name : String)
  | unknownVariant (name : String) (allowed : List String)

/-- Lists the allowed variants: one, two with `or` between them, or more after `one of`. -/
def describeVariants : List String → String
  | [] => "there are no variants"
  | [a] => "expected `" ++ a ++ "`"
  | [a, b] => "expected `" ++ a ++ "` or `" ++ b ++ "`"
  | all => "expected one of " ++ ", ".intercalate (all.map fun a => "`" ++ a ++ "`")

def ShapeError.message : ShapeError → String
  | .invalidType found expected => "invalid type: " ++ found.describe ++ ", expected " ++ expected
  | .invalidValue found expected => "invalid value: " ++ found.describe ++ ", expected " ++ expected
  | .invalidLength length expected =>
    "invalid length " ++ toString length ++ ", expected " ++ expected
  | .missingField name => "missing field `" ++ name ++ "`"
  | .duplicateField name => "duplicate field `" ++ name ++ "`"
  | .unknownVariant name allowed =>
    "unknown variant `" ++ name ++ "`, " ++ describeVariants allowed

/-- Why a text could not be read. -/
inductive Cause
  | endOfList
  | endOfObject
  | endOfString
  | endOfValue
  | expectedColon
  | expectedListEnd
  | expectedObjectEnd
  | expectedWord
  | expectedValue
  | expectedKey
  | invalidEscape
  | invalidNumber
  | numberOutOfRange
  | controlCharacter
  | loneSurrogate
  | unfinishedSurrogate
  | trailingComma
  | trailingCharacters
  | tooDeep
  | shape (e : ShapeError)

def Cause.message : Cause → String
  | .endOfList => "EOF while parsing a list"
  | .endOfObject => "EOF while parsing an object"
  | .endOfString => "EOF while parsing a string"
  | .endOfValue => "EOF while parsing a value"
  | .expectedColon => "expected `:`"
  | .expectedListEnd => "expected `,` or `]`"
  | .expectedObjectEnd => "expected `,` or `\x7d`"
  | .expectedWord => "expected ident"
  | .expectedValue => "expected value"
  | .expectedKey => "key must be a string"
  | .invalidEscape => "invalid escape"
  | .invalidNumber => "invalid number"
  | .numberOutOfRange => "number out of range"
  | .controlCharacter => "control character (\\u0000-\\u001F) found while parsing a string"
  | .loneSurrogate => "lone leading surrogate in hex escape"
  | .unfinishedSurrogate => "unexpected end of hex escape"
  | .trailingComma => "trailing comma"
  | .trailingCharacters => "trailing characters"
  | .tooDeep => "recursion limit exceeded"
  | .shape e => e.message

/-- A cause and its place: the number of bytes of the text after it. -/
structure Fault where
  cause : Cause
  left : Nat

/-- The number of bytes of a text in UTF-8. -/
def byteCount (cs : List Char) : Nat := cs.foldl (fun n c => n + c.utf8Size) 0

/-- Line, from 1, and column in bytes, from 0, after the first `index` bytes. -/
def locate (line column : Nat) : List Char → Nat → Nat × Nat
  | [], _ => (line, column)
  | c :: rest, index =>
    if index < c.utf8Size then (line, column + index)
    else if c = '\n' then locate (line + 1) 0 rest (index - 1)
    else locate line (column + c.utf8Size) rest (index - c.utf8Size)

def Fault.message (text : List Char) (f : Fault) : String :=
  let (line, column) := locate 1 0 text (byteCount text - f.left)
  f.cause.message ++ " at line " ++ toString line ++ " column " ++ toString column

end CloudGate.Json
