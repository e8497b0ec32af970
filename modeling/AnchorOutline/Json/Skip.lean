import AnchorOutline.Json.Number

/-!
# Skipping values

A value that nobody asks for is passed without limit in depth, and its strings and numbers are
looked at less closely: any surrogates and any exponents will do.

* `Json.skipValue` : past a value.
-/

namespace AnchorOutline.Json

/-! ## Strings and numbers -/

/-- Past the body of a string, whatever its escapes by number stand for. -/
def skipString : List Char → Except Failure (List Char)
  | [] => failAt .eofInString []
  | '"' :: rest => .ok rest
  | '\\' :: 'u' :: a :: b :: c :: d :: rest =>
    if (hexQuad? a b c d).isSome then skipString rest else badQuad (a :: b :: c :: d :: rest)
  | '\\' :: rest =>
    match rest with
    | [] => failAt .eofInString []
    | 'u' :: rest => badQuad rest
    | c :: rest =>
      if (simpleEscape? c).isSome then skipString rest else failNext .invalidEscape (c :: rest)
  | c :: rest =>
    if c.toNat < 0x20 then failAt .controlCharacter (c :: rest) else skipString rest

def skipNumber (cs : List Char) : Except Failure (List Char) := do
  match cs with
  | [] => failAt .invalidNumber []
  | c :: rest =>
    if !c.isDigit then failNext .invalidNumber (c :: rest)
    else if c = '0' ∧ (rest.head?.any Char.isDigit) then failNext .invalidNumber rest
    else
      let rest := (dropDigits rest).2
      let rest ← match rest with
        | '.' :: more =>
          let (count, more) := dropDigits more
          if count = 0 then failNext .invalidNumber more else pure more
        | rest => pure rest
      match rest with
      | 'e' :: more | 'E' :: more =>
        let more := match more with
          | '+' :: more | '-' :: more => more
          | more => more
        match more with
        | [] => failAt .invalidNumber []
        | c :: cs =>
          if c.isDigit then return (dropDigits cs).2 else failNext .invalidNumber (c :: cs)
      | rest => return rest

/-! ## Values -/

/-- A bracket that is open while a value is skipped. -/
inductive OpenBracket where
  | array
  | object
  deriving Repr, DecidableEq

namespace OpenBracket

def eof : OpenBracket → Cause
  | array => .eofInList
  | object => .eofInObject

def commaOrEnd : OpenBracket → Cause
  | array => .expectedListCommaOrEnd
  | object => .expectedObjectCommaOrEnd

def closing : OpenBracket → Char
  | array => ']'
  | object => '}'

end OpenBracket

/-- Past the key and colon of the member that comes next in an object. -/
def skipKey (cs : List Char) : Except Failure (List Char) :=
  match skipSpace cs with
  | [] => failAt .eofInObject []
  | '"' :: rest => do
    match skipSpace (← skipString rest) with
    | [] => failAt .eofInObject []
    | ':' :: rest => return rest
    | rest => failNext .expectedColon rest
  | rest => failNext .keyMustBeString rest

/-- Closes brackets, innermost first, and passes a comma. With brackets left, the rest is where
the next item or member begins. -/
def skipEnds : Nat → Bool → List OpenBracket → List Char →
    Except Failure (List OpenBracket × List Char)
  | 0, _, within, cs => .ok (within, cs)
  | _ + 1, _, [], cs => .ok ([], cs)
  | n + 1, afterItem, b :: outer, cs =>
    match skipSpace cs with
    | [] => failAt b.eof []
    | c :: rest =>
      if c = ',' ∧ afterItem then .ok (b :: outer, rest)
      else if c = b.closing then skipEnds n true outer rest
      else if afterItem then failNext b.commaOrEnd (c :: rest)
      else .ok (b :: outer, c :: rest)

/-- Past a value of any depth, and all brackets that are open around it. -/
def skipNested : Nat → List OpenBracket → List Char → Except Failure (List Char)
  | 0, _, cs => .ok cs
  | n + 1, within, cs => do
    let cs ← if within.head? = some .object then skipKey cs else pure cs
    let (within, afterItem, rest) ← (match skipSpace cs with
      | [] => failAt .eofInValue []
      | 'n' :: rest => do return (within, true, ← readKeyword ['u', 'l', 'l'] rest)
      | 't' :: rest => do return (within, true, ← readKeyword ['r', 'u', 'e'] rest)
      | 'f' :: rest => do return (within, true, ← readKeyword ['a', 'l', 's', 'e'] rest)
      | '"' :: rest => do return (within, true, ← skipString rest)
      | '[' :: rest => return (.array :: within, false, rest)
      | '{' :: rest => return (.object :: within, false, rest)
      | '-' :: rest => do return (within, true, ← skipNumber rest)
      | c :: rest =>
        if c.isDigit then do return (within, true, ← skipNumber (c :: rest))
        else failNext .expectedValue (c :: rest) :
      Except Failure (List OpenBracket × Bool × List Char))
    let (within, rest) ← skipEnds (within.length + 1) afterItem within rest
    if within.isEmpty then return rest else skipNested n within rest

def skipValue (cs : List Char) : Except Failure (List Char) := skipNested (cs.length + 1) [] cs

end AnchorOutline.Json
