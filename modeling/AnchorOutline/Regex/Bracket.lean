import AnchorOutline.Regex.Escape

/-!
# Bracketed classes

What stands between `[` and `]`: characters, ranges, classes, nested brackets and the set
operations `&&`, `--` and `~~`, which bind from left to right and weaker than juxtaposition.

Brackets that are still open are kept on a stack, so that a missing bracket is reported at the
innermost one.

* `readBracketed` : a whole class, the cursor being at its opening bracket.
-/

namespace AnchorOutline.Regex

/-- Items that stand side by side, latest first, with the span that they cover. -/
structure ItemRun where
  span : Span
  items : List ClassTree := []

namespace ItemRun

def push (u : ItemRun) (item : ClassTree) : ItemRun :=
  let start := if u.items.isEmpty then item.span.start else u.span.start
  ⟨⟨start, item.span.stop⟩, item :: u.items⟩

def tree (u : ItemRun) : ClassTree :=
  match u.items with
  | [] => .empty u.span
  | [item] => item
  | items => .union u.span items.reverse

end ItemRun

/-- What is waiting for the rest of a class: an open bracket, with the items before it, or an
operation with its left side. -/
inductive OpenClass where
  | bracket (before : ItemRun) (span : Span) (negated : Bool)
  | operation (op : SetOperation) (left : ClassTree)

/-- The fault of a class that the pattern ends in: it shows the innermost open bracket. -/
def unclosedClass {α : Type} (c : Cursor) : List OpenClass → Except Fault α
  | [] => fail .classUnclosed c.here
  | .bracket _ span _ :: _ => fail .classUnclosed span
  | .operation .. :: rest => unclosedClass c rest

/-! ## Opening a bracket -/

/-- Hyphens right behind the opening of a class stand for themselves. -/
def readLeadingHyphens (start : Position) : Nat → ItemRun → Cursor → Except Fault (ItemRun × Cursor)
  | 0, run, c => .ok (run, c)
  | n + 1, run, c => do
    if c.head? != some '-' then return (run, c)
    let run := run.push (.literal ⟨c.headSpan, '-', false⟩)
    let c := c.advance
    if c.atEnd then fail .classUnclosed (.point start)
    readLeadingHyphens start n run c

/-- An opening bracket with a caret, hyphens, or a closing bracket that stands for itself. -/
def readOpening (c : Cursor) : Except Fault ((Span × Bool × ItemRun) × Cursor) := do
  let start := c.pos
  let c := c.advance
  if c.atEnd then fail .classUnclosed (c.since start)
  let negated := c.head? == some '^'
  let c := if negated then c.advance else c
  if c.atEnd then fail .classUnclosed (c.since start)
  let (run, c) ← readLeadingHyphens start (c.rest.length + 1) ⟨c.here, []⟩ c
  if run.items.isEmpty && c.head? == some ']' then
    let run := run.push (.literal ⟨c.headSpan, ']', false⟩)
    let c := c.advance
    if c.atEnd then fail .classUnclosed (c.since start)
    return ((c.since start, negated, run), c)
  else return ((c.since start, negated, run), c)

/-! ## Items -/

def namedClass? (name : List Char) : Option NamedClass :=
  let names : List (String × NamedClass) := [
    ("alnum", .alnum), ("alpha", .alpha), ("ascii", .ascii), ("blank", .blank),
    ("cntrl", .cntrl), ("digit", .digit), ("graph", .graph), ("lower", .lower),
    ("print", .print), ("punct", .punct), ("space", .space), ("upper", .upper),
    ("word", .word), ("xdigit", .xdigit)]
  names.lookup (String.ofList name)

/-- A class such as `[:alpha:]` or `[:^alpha:]`. Anything else in that place is left alone. -/
def readNamedClass? (c : Cursor) : Option (ClassTree × Cursor) := do
  let start := c.pos
  let c ← c.dropIf ['[', ':']
  let negated := c.head? == some '^'
  let c := if negated then c.bump else c
  let name := c.rest.takeWhile (· != ':')
  let c ← c.dropIf name
  let c ← c.dropIf [':', ']']
  let kind ← namedClass? name
  return (.named (c.since start) kind negated, c)

/-- One item of a class before it is known whether it begins a range. -/
def readClassAtom (c : Cursor) : Except Fault (Tree × Cursor) :=
  match c.head? with
  | some '\\' => readEscape c
  | some x => .ok (.literal ⟨c.headSpan, x, false⟩, c.bump)
  | none => fail .classUnclosed c.here

def asItem : Tree → Except Fault ClassTree
  | .literal l => .ok (.literal l)
  | .shorthand span kind negated => .ok (.shorthand span kind negated)
  | .unicode span name negated => .ok (.unicode span name negated)
  | t => fail .classEscapeInvalid t.span

def asBound : Tree → Except Fault Literal
  | .literal l => .ok l
  | t => fail .classRangeLiteral t.span

/-- A single item, or a range when a hyphen follows that is neither last nor doubled. -/
def readItem (stack : List OpenClass) (c : Cursor) : Except Fault (ClassTree × Cursor) := do
  let (first, c) ← readClassAtom c
  let c := c.skipSpace
  if c.atEnd then unclosedClass c stack
  let next := c.secondPastSpace?
  if c.head? != some '-' || next == some ']' || next == some '-' then
    return (← asItem first, c)
  let c := c.advance
  if c.atEnd then unclosedClass c stack
  let (last, c) ← readClassAtom c
  let span : Span := ⟨first.span.start, last.span.stop⟩
  let lo ← asBound first
  let hi ← asBound last
  if hi.char < lo.char then fail .classRangeInvalid span
  return (.range span lo hi, c)

/-! ## The whole class -/

/-- Closes the operation on top of the stack with its right side. -/
def closeOperation (right : ClassTree) : List OpenClass → ClassTree × List OpenClass
  | .operation op left :: rest =>
    (.operation ⟨left.span.start, right.span.stop⟩ op left right, rest)
  | stack => (right, stack)

def setOperation? (c : Cursor) : Option (SetOperation × Cursor) :=
  match c.head?, c.second? with
  | some '&', some '&' => some (.intersection, c.bump.bump)
  | some '-', some '-' => some (.difference, c.bump.bump)
  | some '~', some '~' => some (.symmetricDifference, c.bump.bump)
  | _, _ => none

/-- Reads items up to the bracket that closes the outermost class. -/
def readClassItems : Nat → List OpenClass → ItemRun → Cursor → Except Fault (Tree × Cursor)
  | 0, stack, _, c => unclosedClass c stack
  | n + 1, stack, run, c => do
    let c := c.skipSpace
    match c.head? with
    | none => unclosedClass c stack
    | some '[' =>
      match readNamedClass? c with
      | some (item, c) => readClassItems n stack (run.push item) c
      | none =>
        let ((span, negated, inner), c) ← readOpening c
        readClassItems n (.bracket run span negated :: stack) inner c
    | some ']' =>
      match closeOperation run.tree stack with
      | (body, .bracket before span negated :: stack) =>
        let c := c.bump
        let span := c.since span.start
        if stack.isEmpty then return (.bracketed span negated body, c)
        else readClassItems n stack (before.push (.bracketed span negated body)) c
      | (_, stack) => unclosedClass c stack
    | some _ =>
      match setOperation? c with
      | some (op, c) =>
        let (left, stack) := closeOperation run.tree stack
        readClassItems n (.operation op left :: stack) ⟨c.here, []⟩ c
      | none =>
        let (item, c) ← readItem stack c
        readClassItems n stack (run.push item) c

/-- A whole class, the cursor being at its opening bracket. -/
def readBracketed (c : Cursor) : Except Fault (Tree × Cursor) := do
  let ((span, negated, run), c) ← readOpening c
  readClassItems (c.rest.length + 1) [.bracket ⟨c.here, []⟩ span negated] run c

end AnchorOutline.Regex
