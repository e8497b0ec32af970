import AnchorOutline.Regex.Cursor
import AnchorOutline.Regex.Syntax

/-!
# Escape sequences

What may follow a backslash: a quoted sign, a control character, a character by its number, an
assertion, or a class by its letter or name. Digits are refused, since they would be
backreferences, and so is every other letter.

* `readEscape` : one escape sequence, the cursor being at the backslash.
-/

namespace AnchorOutline.Regex

/-- The characters that a pattern gives a meaning to. -/
def isMeta (c : Char) : Bool :=
  ['\\', '.', '+', '*', '?', '(', ')', '|', '[', ']', '{', '}', '^', '$', '#', '&', '-',
    '~'].contains c

/-- The characters that a backslash quotes: all of ASCII but letters, digits and the two signs
that mark word edges. -/
def isQuotable (c : Char) : Bool :=
  isMeta c || (c.toNat < 0x80 && !c.isAlphanum && c != '<' && c != '>')

namespace Cursor

/-- Collects characters of a kind, passing over space after each; the bound is what is unread. -/
def takeSpaced (p : Char → Bool) (c : Cursor) : List Char × Cursor :=
  go c.rest.length c
where
  go : Nat → Cursor → List Char × Cursor
    | 0, c => ([], c)
    | n + 1, c =>
      match c.head? with
      | some x =>
        if p x then
          let (xs, c') := go n c.advance
          (x :: xs, c')
        else ([], c)
      | none => ([], c)

end Cursor

/-! ## Numbers -/

def isHexDigit (c : Char) : Bool := (Unicode.CharSet.hexDigit? c).isSome

def hexValue (digits : List Char) : Nat :=
  digits.foldl (fun n d => 16 * n + (Unicode.CharSet.hexDigit? d).getD 0) 0

/-- The character with a code point, if there is one. -/
def charOf? (n : Nat) : Option Char :=
  if n.isValidChar then some (Char.ofNat n) else none

/-- Reads exactly `n` more hexadecimal digits, the cursor being at the first. -/
def readHexDigits : Nat → Cursor → Except Fault (List Char × Cursor)
  | 0, c => .ok ([], c)
  | n + 1, c => do
    match c.head? with
    | none => fail .escapeUnexpectedEnd c.here
    | some x =>
      if !isHexDigit x then fail .escapeHexInvalidDigit c.headSpan
      let (xs, c') ← readHexDigits n c.advance
      return (x :: xs, c')

/-- Reads hexadecimal digits up to the closing brace, the cursor being before the first. -/
def readBracedDigits (brace : Position) : Nat → Cursor → Except Fault (List Char × Cursor)
  | 0, c => fail .escapeUnexpectedEnd (c.since brace)
  | n + 1, c => do
    match c.head? with
    | none => fail .escapeUnexpectedEnd (c.since brace)
    | some x =>
      if x = '}' then return ([], c)
      if !isHexDigit x then fail .escapeHexInvalidDigit c.headSpan
      let (xs, c') ← readBracedDigits brace n c.advance
      return (x :: xs, c')

/-- How many digits a character by its number has, by the letter that announces it. -/
def hexWidth (letter : Char) : Nat :=
  if letter = 'x' then 2 else if letter = 'u' then 4 else 8

/-- A character by its number, the cursor being at the announcing letter. -/
def readHex (start : Position) (letter : Char) (c : Cursor) : Except Fault (Tree × Cursor) := do
  let c := c.advance
  match c.head? with
  | none => fail .escapeUnexpectedEnd c.here
  | some '{' =>
    let brace := c.pos
    let first := c.bump.pos
    let (digits, c) ← readBracedDigits brace (c.rest.length + 1) c.advance
    let digitSpan := c.since first
    let c := c.advance
    if digits.isEmpty then fail .escapeHexEmpty (c.since brace)
    match charOf? (hexValue digits) with
    | none => fail .escapeHexInvalid digitSpan
    | some x => return (.literal ⟨c.since start, x, false⟩, c)
  | some _ =>
    let first := c.pos
    let (digits, c) ← readHexDigits (hexWidth letter) c
    match charOf? (hexValue digits) with
    | none => fail .escapeHexInvalid (c.since first)
    | some x => return (.literal ⟨c.since start, x, letter == 'x'⟩, c)

/-! ## Classes by name -/

/-- Splits at the first occurrence of a separator. -/
def splitAt? (separator : List Char) : List Char → Option (List Char × List Char)
  | [] => if separator.isEmpty then some ([], []) else none
  | x :: xs =>
    if separator.isPrefixOf (x :: xs) then some ([], (x :: xs).drop separator.length)
    else (splitAt? separator xs).map fun (a, b) => (x :: a, b)

/-- The name between braces: a pair has `!=`, `:` or `=` between property and value. All three are
read alike. -/
def className (text : List Char) : ClassName :=
  let split := [['!', '='], [':'], ['=']].findSome? fun sign => splitAt? sign text
  match split with
  | some (a, b) => .pair (String.ofList a) (String.ofList b)
  | none => .lone (String.ofList text)

/-- A class by the name of a property, the cursor being at the letter. -/
def readUnicodeClass (start : Position) (negated : Bool) (c : Cursor) :
    Except Fault (Tree × Cursor) := do
  let c := c.advance
  match c.head? with
  | none => fail .escapeUnexpectedEnd c.here
  | some '{' =>
    let (text, c) := c.advance.takeSpaced (· != '}')
    if c.atEnd then fail .escapeUnexpectedEnd c.here
    let c := c.bump
    return (.unicode (c.since start) (className text) negated, c)
  | some '\\' => fail .unicodeClassInvalid c.headSpan
  | some x =>
    let c := c.advance
    return (.unicode (c.since start) (.lone x.toString) negated, c)

/-! ## Word edges -/

def specialBoundary? (name : List Char) : Option Assertion :=
  if name = "start".toList then some .wordStart
  else if name = "end".toList then some .wordEnd
  else if name = "start-half".toList then some .wordStartHalf
  else if name = "end-half".toList then some .wordEndHalf
  else none

/-- After `\b`, a word edge named between braces. Where the braces hold something else they are
left for a counted repetition. -/
def readSpecialBoundary (start : Position) (c : Cursor) :
    Except Fault (Option Assertion × Cursor) := do
  let brace := c
  let isNameChar := fun x : Char => x.isAlpha || x == '-'
  let c := c.advance
  match c.head? with
  | none => fail .specialBoundaryUnexpectedEnd (c.since start)
  | some x =>
    if !isNameChar x then return (none, brace)
    let first := c.pos
    let (name, c) := c.takeSpaced isNameChar
    if c.head? != some '}' then fail .specialBoundaryUnclosed (c.since brace.pos)
    match specialBoundary? name with
    | none => fail .specialBoundaryUnrecognized (c.since first)
    | some kind => return (some kind, c.bump)

/-! ## The whole sequence -/

/-- The control characters with a letter of their own. -/
def controlChar? (letter : Char) : Option Char :=
  match letter with
  | 'a' => some '\x07'
  | 'f' => some '\x0C'
  | 't' => some '\t'
  | 'n' => some '\n'
  | 'r' => some '\r'
  | 'v' => some '\x0B'
  | _ => none

def plainAssertion? (letter : Char) : Option Assertion :=
  match letter with
  | 'A' => some .textStart
  | 'z' => some .textEnd
  | 'B' => some .noWordBoundary
  | '<' => some .wordStart
  | '>' => some .wordEnd
  | _ => none

def shorthand? (letter : Char) : Option (Shorthand × Bool) :=
  match letter with
  | 'd' => some (.digit, false)
  | 's' => some (.space, false)
  | 'w' => some (.word, false)
  | 'D' => some (.digit, true)
  | 'S' => some (.space, true)
  | 'W' => some (.word, true)
  | _ => none

/-- One escape sequence, the cursor being at the backslash. -/
def readEscape (c : Cursor) : Except Fault (Tree × Cursor) := do
  let start := c.pos
  let c := c.bump
  match c.head? with
  | none => fail .escapeUnexpectedEnd (c.since start)
  | some x =>
    let after := c.bump
    let span := after.since start
    if x.isDigit then fail .backreference span
    else if x = 'x' ∨ x = 'u' ∨ x = 'U' then readHex start x c
    else if x = 'p' ∨ x = 'P' then readUnicodeClass start (x == 'P') c
    else if let some (kind, negated) := shorthand? x then
      return (.shorthand span kind negated, after)
    else if isQuotable x then return (.literal ⟨span, x, false⟩, after)
    else if let some y := controlChar? x then return (.literal ⟨span, y, false⟩, after)
    else if let some kind := plainAssertion? x then return (.assertion span kind, after)
    else if x = 'b' then
      if after.head? = some '{' then
        let (special, after) ← readSpecialBoundary start after
        return (.assertion (after.since start) (special.getD .wordBoundary), after)
      else return (.assertion span .wordBoundary, after)
    else fail .escapeUnrecognized span

end AnchorOutline.Regex
