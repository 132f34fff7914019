import CloudGate.Decimal.Text
import CloudGate.Json.Basic

/-!
The written form of JSON values: compact on one line, or one element a line with an indentation of
two spaces.
-/

namespace CloudGate.Json

/-- A short escape for the characters that have one, four hexadecimal digits for the other control
characters, and every other character as itself. -/
def escapeChar (c : Char) : List Char :=
  if c = '"' then ['\\', '"']
  else if c = '\\' then ['\\', '\\']
  else if c = '\n' then ['\\', 'n']
  else if c = '\r' then ['\\', 'r']
  else if c = '\t' then ['\\', 't']
  else if c = '\x08' then ['\\', 'b']
  else if c = '\x0c' then ['\\', 'f']
  else if c.toNat < 0x20 then
    ['\\', 'u', '0', '0', Nat.digitChar (c.toNat / 16), Nat.digitChar (c.toNat % 16)]
  else [c]

def renderString (s : String) : String :=
  String.ofList ('"' :: s.toList.flatMap escapeChar ++ ['"'])

def Number.render : Number → String
  | .int n => toString n
  | .real x => x.render

mutual

/-- The compact form. -/
def render : Json → String
  | .null => "null"
  | .bool true => "true"
  | .bool false => "false"
  | .num n => n.render
  | .str s => renderString s
  | .arr items => "[" ++ renderItems items ++ "]"
  | .obj members => "\x7b" ++ renderMembers members ++ "\x7d"

def renderItems : List Json → String
  | [] => ""
  | [v] => render v
  | v :: rest => render v ++ "," ++ renderItems rest

def renderMembers : List (String × Json) → String
  | [] => ""
  | [(n, v)] => renderString n ++ ":" ++ render v
  | (n, v) :: rest => renderString n ++ ":" ++ render v ++ "," ++ renderMembers rest

end

/-- A line break and the indentation of the given depth. -/
def newline (depth : Nat) : String := "\n" ++ String.ofList (List.replicate (2 * depth) ' ')

mutual

/-- The form with one element a line. Empty arrays and objects stay on their line. -/
def renderPretty (depth : Nat) : Json → String
  | .null => "null"
  | .bool true => "true"
  | .bool false => "false"
  | .num n => n.render
  | .str s => renderString s
  | .arr [] => "[]"
  | .arr items => "[" ++ prettyItems (depth + 1) items ++ newline depth ++ "]"
  | .obj [] => "\x7b\x7d"
  | .obj members => "\x7b" ++ prettyMembers (depth + 1) members ++ newline depth ++ "\x7d"

def prettyItems (depth : Nat) : List Json → String
  | [] => ""
  | [v] => newline depth ++ renderPretty depth v
  | v :: rest => newline depth ++ renderPretty depth v ++ "," ++ prettyItems depth rest

def prettyMembers (depth : Nat) : List (String × Json) → String
  | [] => ""
  | [(n, v)] => newline depth ++ renderString n ++ ": " ++ renderPretty depth v
  | (n, v) :: rest =>
    newline depth ++ renderString n ++ ": " ++ renderPretty depth v ++ "," ++
      prettyMembers depth rest

end

def pretty (v : Json) : String := renderPretty 0 v

end CloudGate.Json
