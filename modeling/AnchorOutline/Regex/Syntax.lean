import AnchorOutline.Regex.Span

/-!
# The syntax of patterns

A pattern as it is written, each part with its span: `Tree` for patterns and `ClassTree` for what
stands between brackets. White space and comments of the verbose mode are already gone; everything
else is still there, so a fault that only shows later can point at its place.
-/

namespace AnchorOutline.Regex

structure Literal where
  span : Span
  char : Char
  /-- It is spelt with exactly two hexadecimal digits, and so may stand for a byte. -/
  isByte : Bool := false
  deriving Repr, DecidableEq

/-! ## Flags -/

/-- The letters that change how the rest of a group is read. -/
inductive Flag where
  | ignoreCase | multiLine | dotAll | swapGreed | unicode | crlf | verbose
  deriving Repr, DecidableEq

/-- One character of a flag list: a flag, or the sign that clears the flags after it. -/
inductive FlagItem where
  | clear
  | flag (f : Flag)
  deriving Repr, DecidableEq

abbrev FlagList := List (FlagItem × Span)

/-- Whether a list sets or clears a flag, if it names it. -/
def FlagList.state (items : FlagList) (f : Flag) : Option Bool :=
  go items true
where
  go : FlagList → Bool → Option Bool
    | [], _ => none
    | (.clear, _) :: rest, _ => go rest false
    | (.flag g, _) :: rest, on => if g = f then some on else go rest on

/-! ## Assertions and classes -/

inductive Assertion where
  | lineStart | lineEnd | textStart | textEnd
  | wordBoundary | noWordBoundary
  | wordStart | wordEnd | wordStartHalf | wordEndHalf
  deriving Repr, DecidableEq

inductive Shorthand where
  | digit | space | word
  deriving Repr, DecidableEq

/-- The classes that are named between `[:` and `:]`. -/
inductive NamedClass where
  | alnum | alpha | ascii | blank | cntrl | digit | graph
  | lower | print | punct | space | upper | word | xdigit
  deriving Repr, DecidableEq

/-- The name by which a class of Unicode characters is asked for. -/
inductive ClassName where
  | lone (name : String)
  | pair (property value : String)
  deriving Repr, DecidableEq

inductive SetOperation where
  | intersection | difference | symmetricDifference
  deriving Repr, DecidableEq

inductive ClassTree where
  | empty (span : Span)
  | literal (l : Literal)
  | range (span : Span) (first last : Literal)
  | named (span : Span) (kind : NamedClass) (negated : Bool)
  | shorthand (span : Span) (kind : Shorthand) (negated : Bool)
  | unicode (span : Span) (name : ClassName) (negated : Bool)
  | bracketed (span : Span) (negated : Bool) (body : ClassTree)
  | union (span : Span) (items : List ClassTree)
  | operation (span : Span) (op : SetOperation) (left right : ClassTree)

namespace ClassTree

def span : ClassTree → Span
  | empty s | range s .. | named s .. | shorthand s .. | unicode s .. | bracketed s ..
  | union s _ | operation s .. => s
  | literal l => l.span

end ClassTree

/-! ## Patterns -/

/-- How a group opens: counted, named, or only with flags. -/
inductive GroupKind where
  | capture
  | plain (flags : FlagList)
  deriving Repr, DecidableEq

inductive Tree where
  | empty (span : Span)
  | flags (span : Span) (items : FlagList)
  | literal (l : Literal)
  | dot (span : Span)
  | assertion (span : Span) (kind : Assertion)
  | shorthand (span : Span) (kind : Shorthand) (negated : Bool)
  | unicode (span : Span) (name : ClassName) (negated : Bool)
  | bracketed (span : Span) (negated : Bool) (body : ClassTree)
  | repetition (span : Span) (least : Nat) (most : Option Nat) (greedy : Bool) (body : Tree)
  | group (span : Span) (kind : GroupKind) (body : Tree)
  | alternation (span : Span) (branches : List Tree)
  | concat (span : Span) (parts : List Tree)

namespace Tree

def span : Tree → Span
  | empty s | flags s _ | dot s | assertion s _ | shorthand s .. | unicode s .. | bracketed s ..
  | repetition s .. | group s .. | alternation s _ | concat s _ => s
  | literal l => l.span

/-- What a list of parts amounts to: itself only from two parts on. -/
def ofParts (span : Span) : List Tree → Tree
  | [] => empty span
  | [t] => t
  | ts => concat span ts

end Tree

end AnchorOutline.Regex
