/-!
# Places in a pattern

A position counts characters from the start of the pattern, and also gives the line and the column
for messages; both count from one. A span runs from its start up to, not including, its stop.
-/

namespace AnchorOutline.Regex

structure Position where
  offset : Nat := 0
  line : Nat := 1
  column : Nat := 1
  deriving Repr, DecidableEq, Inhabited

namespace Position

def after (p : Position) (c : Char) : Position :=
  if c = '\n' then ⟨p.offset + 1, p.line + 1, 1⟩ else ⟨p.offset + 1, p.line, p.column + 1⟩

end Position

structure Span where
  start : Position
  stop : Position
  deriving Repr, DecidableEq, Inhabited

namespace Span

def point (p : Position) : Span := ⟨p, p⟩

def isOneLine (s : Span) : Bool := s.start.line == s.stop.line

/-- Spans in the order in which they begin, and end. -/
def le (a b : Span) : Bool :=
  a.start.offset < b.start.offset ||
    (a.start.offset == b.start.offset && a.stop.offset ≤ b.stop.offset)

end Span

end AnchorOutline.Regex
