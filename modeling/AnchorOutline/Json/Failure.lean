import AnchorOutline.Text.Quoted
import AnchorOutline.Text.ShortestDecimal

/-!
# Why a JSON text is refused

A text may break the grammar of JSON, or be good JSON that does not fit the value asked for. Either
way the failure has a place: the number of the line, from one, and how many bytes of the line were
read by then.

* `Json.Cause` : the reasons, with `Cause.message` for their wording;
* `Json.Failure` : a reason with what was unread when it arose;
* `Json.Error` : a reason with its line and column.
-/

namespace AnchorOutline.Json

/-! ## Reasons -/

/-- What was found where something else was expected. -/
inductive Found where
  | null
  | bool (value : Bool)
  | integer (value : Int)
  | double (bits : UInt64)
  | string (value : String)
  | sequence
  | map
  deriving Repr, DecidableEq

namespace Found

def describe : Found → String
  | null => "null"
  | bool b => s!"boolean `{b}`"
  | integer n => s!"integer `{n}`"
  | double bits => s!"floating point `{Text.renderDouble bits}`"
  | string s => "string " ++ Text.quote s
  | sequence => "sequence"
  | map => "map"

end Found

inductive Cause where
  | eofInValue
  | eofInObject
  | eofInList
  | eofInString
  | expectedValue
  | expectedIdent
  | keyMustBeString
  | expectedColon
  | expectedObjectCommaOrEnd
  | expectedListCommaOrEnd
  | trailingComma
  | trailingCharacters
  | invalidEscape
  | invalidNumber
  | numberOutOfRange
  | controlCharacter
  | loneSurrogate
  | unfinishedSurrogate
  | recursionLimit
  | missingField (name : String)
  | duplicateField (name : String)
  | invalidType (found : Found) (expected : String)
  | invalidValue (found : Found) (expected : String)
  | invalidLength (count : Nat) (expected : String)
  | unknownVariant (name expected : String)
  deriving Repr, DecidableEq

namespace Cause

def message : Cause → String
  | eofInValue => "EOF while parsing a value"
  | eofInObject => "EOF while parsing an object"
  | eofInList => "EOF while parsing a list"
  | eofInString => "EOF while parsing a string"
  | expectedValue => "expected value"
  | expectedIdent => "expected ident"
  | keyMustBeString => "key must be a string"
  | expectedColon => "expected `:`"
  | expectedObjectCommaOrEnd => "expected `,` or `\x7d`"
  | expectedListCommaOrEnd => "expected `,` or `]`"
  | trailingComma => "trailing comma"
  | trailingCharacters => "trailing characters"
  | invalidEscape => "invalid escape"
  | invalidNumber => "invalid number"
  | numberOutOfRange => "number out of range"
  | controlCharacter => "control character (\\u0000-\\u001F) found while parsing a string"
  | loneSurrogate => "lone leading surrogate in hex escape"
  | unfinishedSurrogate => "unexpected end of hex escape"
  | recursionLimit => "recursion limit exceeded"
  | missingField name => s!"missing field `{name}`"
  | duplicateField name => s!"duplicate field `{name}`"
  | invalidType found expected => s!"invalid type: {found.describe}, expected {expected}"
  | invalidValue found expected => s!"invalid value: {found.describe}, expected {expected}"
  | invalidLength count expected => s!"invalid length {count}, expected {expected}"
  | unknownVariant name expected => s!"unknown variant `{name}`, expected `{expected}`"

end Cause

/-! ## Places -/

/-- A reason with what was unread when it arose. A reason about a whole bracket gets its place
only when the bracket is left. -/
inductive Failure where
  /-- The place is `beyond` bytes into the rest. -/
  | placed (cause : Cause) (rest : List Char) (beyond : Nat)
  | unplaced (cause : Cause) (rest : List Char)
  deriving Repr, DecidableEq

structure Error where
  cause : Cause
  line : Nat
  column : Nat
  deriving Repr, DecidableEq

def byteLength : List Char → Nat
  | [] => 0
  | c :: cs => c.utf8Size + byteLength cs

/-- The line and column after the first bytes of a text: bytes beyond the line that a place is in
do not count, nor do those of a character that it cuts. -/
def placeAfter : List Char → Nat → Nat → Nat → Nat × Nat
  | [], _, line, column => (line, column)
  | c :: cs, n, line, column =>
    if n = 0 then (line, column)
    else if n < c.utf8Size then (line, column + n)
    else if c = '\n' then placeAfter cs (n - c.utf8Size) (line + 1) 0
    else placeAfter cs (n - c.utf8Size) line (column + c.utf8Size)

namespace Failure

def cause : Failure → Cause
  | placed c _ _ | unplaced c _ => c

def located (text : List Char) (f : Failure) : Error :=
  let (rest, beyond) := match f with
    | placed _ rest beyond => (rest, beyond)
    | unplaced _ rest => (rest, 0)
  let (line, column) := placeAfter text (byteLength text - byteLength rest + beyond) 1 0
  ⟨f.cause, line, column⟩

end Failure

namespace Error

def message (e : Error) : String := s!"{e.cause.message} at line {e.line} column {e.column}"

end Error

end AnchorOutline.Json
