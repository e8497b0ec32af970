import AnchorOutline.Json.Failure

/-!
# Space, keywords and strings

A reader takes what is unread and gives back a value and the new rest, or a failure.

* `Json.Reader` : the type of readers;
* `Json.skipSpace`, `Json.readKeyword`, `Json.readString` : the readers of tokens.
-/

namespace AnchorOutline.Json

/-- From what is unread to a value with the rest, or a failure. -/
abbrev Reader (α : Type) := List Char → Except Failure (α × List Char)

def failAt {α : Type} (cause : Cause) (rest : List Char) : Except Failure α :=
  .error (.placed cause rest 0)

/-- A failure that counts the byte which is next as read. -/
def failNext {α : Type} (cause : Cause) (rest : List Char) : Except Failure α :=
  .error (.placed cause rest 1)

/-! ## Space and keywords -/

def isSpace (c : Char) : Bool := c == ' ' || c == '\n' || c == '\t' || c == '\r'

def skipSpace (cs : List Char) : List Char := cs.dropWhile isSpace

/-- The rest of a keyword whose first letter was read. -/
def readKeyword : List Char → List Char → Except Failure (List Char)
  | [], cs => .ok cs
  | _ :: _, [] => failAt .eofInValue []
  | k :: ks, c :: cs => if c = k then readKeyword ks cs else failNext .expectedIdent (c :: cs)

/-! ## Strings -/

def hexValue? (c : Char) : Option Nat :=
  if '0' ≤ c ∧ c ≤ '9' then some (c.toNat - '0'.toNat)
  else if 'a' ≤ c ∧ c ≤ 'f' then some (c.toNat - 'a'.toNat + 10)
  else if 'A' ≤ c ∧ c ≤ 'F' then some (c.toNat - 'A'.toNat + 10)
  else none

/-- The number that four hexadecimal digits stand for. -/
def hexQuad? (a b c d : Char) : Option Nat := do
  return (((← hexValue? a) * 16 + (← hexValue? b)) * 16 + (← hexValue? c)) * 16 + (← hexValue? d)

/-- The failure of an escape by number that has no four digits. -/
def badQuad {α : Type} (rest : List Char) : Except Failure α :=
  if byteLength rest < 4 then failAt .eofInString [] else .error (.placed .invalidEscape rest 4)

/-- The characters that a backslash and a letter stand for. -/
def simpleEscape? (c : Char) : Option Char :=
  match c with
  | '"' => some '"'
  | '\\' => some '\\'
  | '/' => some '/'
  | 'b' => some '\x08'
  | 'f' => some '\x0C'
  | 'n' => some '\n'
  | 'r' => some '\r'
  | 't' => some '\t'
  | _ => none

def isHighSurrogate (n : Nat) : Bool := 0xD800 ≤ n && n ≤ 0xDBFF

def isLowSurrogate (n : Nat) : Bool := 0xDC00 ≤ n && n ≤ 0xDFFF

/-- The failure of a first surrogate without a second one behind it. -/
def badSecondSurrogate {α : Type} : List Char → Except Failure α
  | '\\' :: 'u' :: a :: b :: c :: d :: rest =>
    if (hexQuad? a b c d).isSome then failAt .loneSurrogate rest
    else badQuad (a :: b :: c :: d :: rest)
  | '\\' :: 'u' :: rest => badQuad rest
  | '\\' :: c :: cs => failNext .unfinishedSurrogate (c :: cs)
  | ['\\'] => failAt .eofInString []
  | [] => failAt .eofInString []
  | cs => failNext .unfinishedSurrogate cs

def readStringBody : Reader (List Char)
  | [] => failAt .eofInString []
  | '"' :: rest => .ok ([], rest)
  | '\\' :: 'u' :: a :: b :: c :: d :: rest =>
    match hexQuad? a b c d with
    | none => badQuad (a :: b :: c :: d :: rest)
    | some n =>
      if isLowSurrogate n then failAt .loneSurrogate rest
      else if isHighSurrogate n then
        match rest with
        | '\\' :: 'u' :: e :: f :: g :: h :: rest' =>
          match hexQuad? e f g h with
          | none => badSecondSurrogate rest
          | some m =>
            if isLowSurrogate m then do
              let (cs, rest'') ← readStringBody rest'
              return (Char.ofNat ((n - 0xD800) * 0x400 + (m - 0xDC00) + 0x10000) :: cs, rest'')
            else badSecondSurrogate rest
        | _ => badSecondSurrogate rest
      else do
        let (cs, rest) ← readStringBody rest
        return (Char.ofNat n :: cs, rest)
  | '\\' :: rest =>
    match rest with
    | [] => failAt .eofInString []
    | 'u' :: rest => badQuad rest
    | c :: rest =>
      match simpleEscape? c with
      | some x => do
        let (cs, rest) ← readStringBody rest
        return (x :: cs, rest)
      | none => failNext .invalidEscape (c :: rest)
  | c :: rest =>
    if c.toNat < 0x20 then failNext .controlCharacter (c :: rest)
    else do
      let (cs, rest) ← readStringBody rest
      return (c :: cs, rest)

def readString : Reader String := fun cs => do
  let (body, rest) ← readStringBody cs
  return (String.ofList body, rest)

end AnchorOutline.Json
