import AnchorOutline.Json.Value
import AnchorOutline.Text.ShortestDecimal

/-!
# Writing JSON

Values are written over several lines, two blanks deeper for each bracket; empty arrays and
objects stay on one line. In a string only quotes, backslashes and control characters are escaped.

* `Json.escape` : the body of a string;
* `Json.layout` : a value, its inner lines indented from a given depth on;
* `Json.pretty` : the text of a value.
-/

namespace AnchorOutline.Json

/-! ## Strings -/

def controlDigits (n : Nat) : List Char :=
  [Nat.digitChar (n / 16), Nat.digitChar (n % 16)]

/-- How a character is written in a string. -/
def escapeChar (c : Char) : List Char :=
  if c = '"' then ['\\', '"']
  else if c = '\\' then ['\\', '\\']
  else if c.toNat < 0x20 then
    if c = '\n' then ['\\', 'n']
    else if c = '\r' then ['\\', 'r']
    else if c = '\t' then ['\\', 't']
    else if c.toNat = 0x08 then ['\\', 'b']
    else if c.toNat = 0x0C then ['\\', 'f']
    else ['\\', 'u', '0', '0'] ++ controlDigits c.toNat
  else [c]

def escape (cs : List Char) : List Char := cs.flatMap escapeChar

def layoutString (s : String) : List Char := '"' :: escape s.toList ++ ['"']

/-! ## Values -/

def breakAt (depth : Nat) : List Char := '\n' :: List.replicate (2 * depth) ' '

mutual

/-- The characters of a value that stands at a depth. -/
def layout (depth : Nat) : Json → List Char
  | .null => "null".toList
  | .bool true => "true".toList
  | .bool false => "false".toList
  | .integer n => (toString n).toList
  | .double bits => (Text.renderDouble bits).toList
  | .string s => layoutString s
  | .array [] => ['[', ']']
  | .array (x :: xs) =>
    '[' :: breakAt (depth + 1) ++ layout (depth + 1) x ++ layoutItems (depth + 1) xs ++
      breakAt depth ++ [']']
  | .object [] => ['{', '}']
  | .object ((k, v) :: rest) =>
    '{' :: breakAt (depth + 1) ++ layoutString k ++ [':', ' '] ++ layout (depth + 1) v ++
      layoutMembers (depth + 1) rest ++ breakAt depth ++ ['}']

def layoutItems (depth : Nat) : List Json → List Char
  | [] => []
  | x :: xs => ',' :: breakAt depth ++ layout depth x ++ layoutItems depth xs

def layoutMembers (depth : Nat) : List (String × Json) → List Char
  | [] => []
  | (k, v) :: rest =>
    ',' :: breakAt depth ++ layoutString k ++ [':', ' '] ++ layout depth v ++
      layoutMembers depth rest

end

def pretty (j : Json) : String := String.ofList (layout 0 j)

end AnchorOutline.Json
