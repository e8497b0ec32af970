import AnchorOutline.Regex.Fault
import AnchorOutline.Unicode.Property

/-!
# Reading a pattern from left to right

A cursor is what is left of a pattern together with the place it begins at. In verbose mode white
space and comments may be skipped, which the reader of each construct asks for where it is allowed.

* `Cursor.bump` : past one character;
* `Cursor.skipSpace` : past white space and comments, in verbose mode only;
* `Cursor.advance` : past one character and the space behind it;
* `Cursor.dropIf` : past a given text, if it comes next.
-/

namespace AnchorOutline.Regex

structure Cursor where
  rest : List Char
  pos : Position := {}
  /-- White space and comments are ignored. -/
  verbose : Bool := false

namespace Cursor

def atEnd (c : Cursor) : Bool := c.rest.isEmpty

def head? (c : Cursor) : Option Char := c.rest.head?

/-- The character after the next one. -/
def second? (c : Cursor) : Option Char := c.rest.tail.head?

def bump (c : Cursor) : Cursor :=
  match c.rest with
  | [] => c
  | x :: xs => { c with rest := xs, pos := c.pos.after x }

def isSpace (c : Char) : Bool := Unicode.Property.whiteSpace.contains c

/-- What is left after leading white space and comments, and where that is. The flag tells whether
a comment is open. -/
def afterSpace : List Char → Position → Bool → List Char × Position
  | [], p, _ => ([], p)
  | x :: xs, p, true => afterSpace xs (p.after x) (x != '\n')
  | x :: xs, p, false =>
    if isSpace x then afterSpace xs (p.after x) false
    else if x = '#' then afterSpace xs (p.after x) true
    else (x :: xs, p)

def skipSpace (c : Cursor) : Cursor :=
  if c.verbose then
    let (rest, pos) := afterSpace c.rest c.pos false
    { c with rest, pos }
  else c

def advance (c : Cursor) : Cursor := c.bump.skipSpace

/-- The next character but for white space; in verbose mode one comment sign is passed over too. -/
def secondPastSpace? (c : Cursor) : Option Char :=
  if c.verbose then go c.rest.tail false else c.second?
where
  go : List Char → Bool → Option Char
    | [], _ => none
    | x :: xs, commented =>
      if isSpace x then go xs commented
      else if !commented && x == '#' then go xs true
      else some x

def headSpan (c : Cursor) : Span := ⟨c.pos, c.bump.pos⟩

def here (c : Cursor) : Span := .point c.pos

/-- The span from an earlier place up to the cursor. -/
def since (c : Cursor) (start : Position) : Span := ⟨start, c.pos⟩

def dropIf (c : Cursor) (text : List Char) : Option Cursor :=
  match text with
  | [] => some c
  | t :: ts => if c.head? = some t then c.bump.dropIf ts else none

def skipBlanks (c : Cursor) : Cursor :=
  go c.rest c.pos
where
  go : List Char → Position → Cursor
    | [], p => { c with rest := [], pos := p }
    | x :: xs, p => if isSpace x then go xs (p.after x) else { c with rest := x :: xs, pos := p }

end Cursor

def fail {α : Type} (cause : Cause) (span : Span) : Except Fault α := .error ⟨cause, span, none⟩

end AnchorOutline.Regex
