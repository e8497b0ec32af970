import AnchorOutline.Json.Bracket
import AnchorOutline.Json.Number
import AnchorOutline.Json.Skip

/-!
# Reading values of a known kind

A decoder knows what it wants and says so when it finds something else. What it finds instead is
read first, unless it is a bracket, so the failure stands behind it.

* `Json.Decoder.string`, `bool`, `count`, `null` : single values;
* `Json.Decoder.list`, `optional`, `tag` : lists, values that may be null, and a name out of one;
* `Json.decode` : a whole text.
-/

namespace AnchorOutline.Json

/-- A reader for values of one kind, by the depth that brackets may still reach. -/
abbrev Decoder (α : Type) := Nat → Reader α

/-! ## Something else -/

def Number.found : Number → Found
  | .integer n => .integer n
  | .double bits => .double bits

/-- A number, its sign included, that begins with the given character. -/
def readSigned (c : Char) (rest : List Char) : Except Failure (Number × List Char) :=
  if c = '-' then readNumber true rest else readNumber false (c :: rest)

def startsNumber (c : Char) : Bool := c == '-' || c.isDigit

/-- The failure of finding another value than the expected one. -/
def failExpecting {α : Type} (expected : String) (cs : List Char) : Except Failure α :=
  match cs with
  | [] => failAt .eofInValue []
  | 'n' :: rest => do
    failAt (.invalidType .null expected) (← readKeyword ['u', 'l', 'l'] rest)
  | 't' :: rest => do
    failAt (.invalidType (.bool true) expected) (← readKeyword ['r', 'u', 'e'] rest)
  | 'f' :: rest => do
    failAt (.invalidType (.bool false) expected) (← readKeyword ['a', 'l', 's', 'e'] rest)
  | '"' :: rest => do
    let (s, rest) ← readString rest
    failAt (.invalidType (.string s) expected) rest
  | '[' :: rest => failAt (.invalidType .sequence expected) ('[' :: rest)
  | '{' :: rest => failAt (.invalidType .map expected) ('{' :: rest)
  | c :: rest =>
    if startsNumber c then do
      let (n, rest) ← readSigned c rest
      failAt (.invalidType n.found expected) rest
    else failNext .expectedValue (c :: rest)

def deeper (depth : Nat) (cs : List Char) : Except Failure Nat :=
  if depth ≤ 1 then failNext .recursionLimit cs else .ok (depth - 1)

namespace Decoder

/-! ## Single values -/

def stringNamed (expected : String) : Decoder String := fun _ cs =>
  match skipSpace cs with
  | '"' :: rest => readString rest
  | rest => failExpecting expected rest

def string : Decoder String := stringNamed "a string"

def bool : Decoder Bool := fun _ cs =>
  match skipSpace cs with
  | 't' :: rest => do return (true, ← readKeyword ['r', 'u', 'e'] rest)
  | 'f' :: rest => do return (false, ← readKeyword ['a', 'l', 's', 'e'] rest)
  | rest => failExpecting "a boolean" rest

def null : Decoder Unit := fun _ cs =>
  match skipSpace cs with
  | 'n' :: rest => do return ((), ← readKeyword ['u', 'l', 'l'] rest)
  | rest => failExpecting "unit" rest

/-- A natural number of 64 bits. -/
def count : Decoder Nat := fun _ cs =>
  match skipSpace cs with
  | [] => failAt .eofInValue []
  | c :: rest =>
    if startsNumber c then do
      let (n, rest) ← readSigned c rest
      match n with
      | .integer i =>
        if 0 ≤ i then return (i.toNat, rest) else failAt (.invalidValue (.integer i) "usize") rest
      | .double bits => failAt (.invalidType (.double bits) "usize") rest
    else failExpecting "usize" (c :: rest)

/-! ## Values from values -/

def list {α : Type} (item : Decoder α) : Decoder (List α) := fun depth cs =>
  match skipSpace cs with
  | '[' :: rest => do
    let depth ← deeper depth ('[' :: rest)
    inArray (readItems (item depth) (rest.length + 1) true rest)
  | rest => failExpecting "a sequence" rest

def optional {α : Type} (item : Decoder α) : Decoder (Option α) := fun depth cs =>
  match skipSpace cs with
  | 'n' :: rest => do return (none, ← readKeyword ['u', 'l', 'l'] rest)
  | rest => do
    let (x, rest) ← item depth rest
    return (some x, rest)

def choice (name : String) : Decoder Unit := fun depth cs => do
  let (s, rest) ← stringNamed "variant identifier" depth cs
  if s = name then return ((), rest) else failAt (.unknownVariant s name) rest

/-- The only choice there is, as a string or as the key of null. -/
def tag (name : String) : Decoder Unit := fun depth cs =>
  match skipSpace cs with
  | [] => failAt .eofInValue []
  | '"' :: rest => choice name depth ('"' :: rest)
  | '{' :: rest => do
    let depth ← deeper depth ('{' :: rest)
    let ((), rest) ← choice name depth rest
    let ((), rest) ← null depth (← readColon rest)
    match skipSpace rest with
    | [] => failAt .eofInObject []
    | '}' :: rest => return ((), rest)
    | rest => failAt .expectedValue rest
  | rest => failNext .expectedValue rest

end Decoder

/-! ## Whole texts -/

/-- Reads a whole text as a value of one kind. -/
def decode {α : Type} (decoder : Decoder α) (text : String) : Except Error α :=
  let cs := text.toList
  let whole : Except Failure α := do
    let (x, rest) ← decoder depthLimit cs
    match skipSpace rest with
    | [] => return x
    | rest => failNext .trailingCharacters rest
  whole.mapError (·.located cs)

end AnchorOutline.Json
