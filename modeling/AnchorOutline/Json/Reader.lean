import AnchorOutline.Json.Bracket
import AnchorOutline.Json.Number
import AnchorOutline.Json.Value

/-!
# Reading values

* `Json.readValue` : a value of any shape, nested up to a given depth.
-/

namespace AnchorOutline.Json

/-- A value, brackets nested less deep than `depth`. -/
def readValue : Nat → Reader Json
  | depth, cs =>
    match skipSpace cs with
    | [] => failAt .eofInValue []
    | 'n' :: rest => do return (.null, ← readKeyword ['u', 'l', 'l'] rest)
    | 't' :: rest => do return (.bool true, ← readKeyword ['r', 'u', 'e'] rest)
    | 'f' :: rest => do return (.bool false, ← readKeyword ['a', 'l', 's', 'e'] rest)
    | '"' :: rest => do
      let (s, rest) ← readString rest
      return (.string s, rest)
    | '[' :: rest =>
      match depth with
      | 0 | 1 => failNext .recursionLimit ('[' :: rest)
      | depth + 1 => do
        let (xs, rest) ← inArray (readItems (readValue depth) (rest.length + 1) true rest)
        return (.array xs, rest)
    | '{' :: rest =>
      match depth with
      | 0 | 1 => failNext .recursionLimit ('{' :: rest)
      | depth + 1 => do
        let member := fun key (ms : List (String × Json)) cs => do
          let cs ← readColon cs
          let (v, cs) ← readValue depth cs
          return ((insertMember key v ms, cs) : List (String × Json) × List Char)
        let (ms, rest) ← inObject (readMembers member (rest.length + 1) true [] rest)
        return (.object ms, rest)
    | c :: rest =>
      if c = '-' || c.isDigit then do
        let (n, rest) ← readNumber (c == '-') (if c = '-' then rest else c :: rest)
        match n with
        | .integer i => return (.integer i, rest)
        | .double bits => return (.double bits, rest)
      else failNext .expectedValue (c :: rest)

end AnchorOutline.Json
