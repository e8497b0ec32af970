import AnchorOutline.Regex.Bracket

/-!
# Reading a pattern

A pattern is read from left to right with the open groups on a stack. Each step reads one
construct: a group is opened or closed, a branch begins, a repetition takes the part before it, or
a single character, class or assertion is added. Faults are reported in the order of the text; a
group that stays open is reported last, at its opening.

* `Tree.parse?` : the tree of a pattern, or the first fault in it.
-/

namespace AnchorOutline.Regex

/-! ## Flags and groups -/

def flag? (c : Char) : Option Flag :=
  match c with
  | 'i' => some .ignoreCase
  | 'm' => some .multiLine
  | 's' => some .dotAll
  | 'U' => some .swapGreed
  | 'u' => some .unicode
  | 'R' => some .crlf
  | 'x' => some .verbose
  | _ => none

def addFlagItem (items : FlagList) (item : FlagItem) (span : Span) (again : Cause) :
    Except Fault FlagList :=
  match items.find? (·.1 == item) with
  | some (_, earlier) => .error ⟨again, span, some earlier⟩
  | none => .ok (items ++ [(item, span)])

/-- The flags of a group up to the colon or the closing parenthesis, where the cursor is left. -/
def readFlags : Nat → FlagList → Cursor → Except Fault (FlagList × Cursor)
  | 0, _, c => fail .flagUnexpectedEnd c.here
  | n + 1, items, c => do
    match c.head? with
    | none => fail .flagUnexpectedEnd c.here
    | some x =>
      if x = ':' ∨ x = ')' then
        match items.getLast? with
        | some (.clear, span) => fail .flagDanglingNegation span
        | _ => return (items, c)
      else if x = '-' then
        let items ← addFlagItem items .clear c.headSpan .flagRepeatedNegation
        if c.bump.atEnd then fail .flagUnexpectedEnd c.bump.here
        readFlags n items c.bump
      else
        match flag? x with
        | none => fail .flagUnrecognized c.headSpan
        | some f =>
          let items ← addFlagItem items (.flag f) c.headSpan .flagDuplicate
          if c.bump.atEnd then fail .flagUnexpectedEnd c.bump.here
          readFlags n items c.bump

def isNameChar (first : Bool) (c : Char) : Bool :=
  let letter := c == '_' || Unicode.Property.alphabetic.contains c
  letter || (!first && (['.', '[', ']'].contains c || Unicode.Category.numbers.contains c))

/-- The characters of a group name up to the closing sign, where the cursor is left. -/
def readNameChars : Nat → Bool → Cursor → Except Fault (List Char × Cursor)
  | 0, _, c => fail .groupNameUnexpectedEnd c.here
  | n + 1, first, c => do
    match c.head? with
    | none => fail .groupNameUnexpectedEnd c.here
    | some x =>
      if x = '>' then return ([], c)
      if !isNameChar first x then fail .groupNameInvalid c.headSpan
      let (xs, c) ← readNameChars n false c.bump
      return (x :: xs, c)

def readGroupName (names : List (List Char × Span)) (c : Cursor) :
    Except Fault ((List (List Char × Span)) × Cursor) := do
  let start := c.pos
  let (name, c) ← readNameChars (c.rest.length + 1) true c
  let span := c.since start
  if name.isEmpty then fail .groupNameEmpty (.point start)
  match names.lookup name with
  | some earlier => .error ⟨.groupNameDuplicate, span, some earlier⟩
  | none => return ((name, span) :: names, c.bump)

inductive Opening where
  | flags (items : FlagList)
  | group (kind : GroupKind)

def isLookAround (c : Cursor) : Option Cursor :=
  [['?', '='], ['?', '!'], ['?', '<', '='], ['?', '<', '!']].findSome? fun text => c.dropIf text

/-- An opening parenthesis with what belongs to it. -/
def readGroupOpening (names : List (List Char × Span)) (c : Cursor) :
    Except Fault ((Opening × List (List Char × Span)) × Cursor) := do
  let opened := c.headSpan
  let c := c.advance
  if let some c := isLookAround c then fail .lookAround (c.since opened.start)
  let inner := c.here
  match (c.dropIf ['?', 'P', '<']).or (c.dropIf ['?', '<']) with
  | some c =>
    let (names, c) ← readGroupName names c
    return ((.group .capture, names), c)
  | none =>
    match c.dropIf ['?'] with
    | none => return ((.group .capture, names), c)
    | some c =>
      if c.atEnd then fail .groupUnclosed opened
      let (items, c) ← readFlags (c.rest.length + 1) [] c
      if c.head? == some ')' then
        if items.isEmpty then fail .repetitionMissing inner
        return ((.flags items, names), c.bump)
      else return ((.group (.plain items), names), c.bump)

/-! ## Repetitions -/

/-- A decimal number with blanks around it, if there are digits. -/
def readDecimal (c : Cursor) : Except Fault Nat × Cursor :=
  let c := c.skipBlanks
  let start := c.pos
  let (digits, c) := c.takeSpaced Char.isDigit
  let span := c.since start
  let c := c.skipBlanks
  let value := digits.foldl (fun n d => 10 * n + (d.toNat - '0'.toNat)) 0
  if digits.isEmpty then (fail .repetitionCountEmpty span, c)
  else if value < Nat.pow 2 32 then (.ok value, c)
  else (fail .decimalInvalid span, c)

/-- The bounds of a counted repetition, the cursor being at the opening brace and left after the
closing one and the space behind it. -/
def readCounts (c : Cursor) : Except Fault ((Nat × Option Nat) × Cursor) := do
  let start := c.pos
  let c := c.advance
  if c.atEnd then fail .repetitionCountUnclosed (c.since start)
  let (least, c) := readDecimal c
  if c.atEnd then fail .repetitionCountUnclosed (c.since start)
  let ((lo, hi), c) ← (do
    if c.head? != some ',' then
      let n ← least
      return ((n, some n), c)
    let c := c.advance
    if c.atEnd then fail .repetitionCountUnclosed (c.since start)
    if c.head? == some '}' then
      let n ← least
      return ((n, none), c)
    let n ← least
    let (most, c) := readDecimal c
    let m ← most
    return ((n, some m), c) : Except Fault ((Nat × Option Nat) × Cursor))
  if c.head? != some '}' then fail .repetitionCountUnclosed (c.since start)
  return ((lo, hi), c.advance)

/-- A question mark behind a repetition makes it take as little as it can. -/
def readGreed (c : Cursor) : Bool × Cursor :=
  if c.head? == some '?' then (false, c.bump) else (true, c)

/-! ## The stack of open groups -/

/-- Parts that follow each other, latest first, from where they begin. -/
structure PartRun where
  start : Position
  parts : List Tree := []

namespace PartRun

def push (r : PartRun) (t : Tree) : PartRun := { r with parts := t :: r.parts }

def tree (r : PartRun) (stop : Position) : Tree := .ofParts ⟨r.start, stop⟩ r.parts.reverse

end PartRun

/-- What is waiting for the rest of the pattern: a group with what came before it, or branches,
latest first, from where the first one begins. -/
inductive Frame where
  | group (before : PartRun) (opened : Span) (kind : GroupKind) (verbose : Bool)
  | branches (start : Position) (done : List Tree)

structure Progress where
  cursor : Cursor
  run : PartRun
  stack : List Frame := []
  names : List (List Char × Span) := []

namespace Progress

/-- Everything since the last open group: the run alone, or with the branches before it. -/
def closeBranches (p : Progress) : Tree × List Frame :=
  let last := p.run.tree p.cursor.pos
  match p.stack with
  | .branches start done :: rest =>
    (.alternation ⟨start, p.cursor.pos⟩ (done.reverse ++ [last]), rest)
  | stack => (last, stack)

def openGroup (p : Progress) : Except Fault Progress := do
  let opened := p.cursor.headSpan
  let ((opening, names), c) ← readGroupOpening p.names p.cursor
  match opening with
  | .flags items =>
    let verbose := (items.state .verbose).getD c.verbose
    let run := p.run.push (.flags (c.since opened.start) items)
    return { p with cursor := { c with verbose }, run, names }
  | .group kind =>
    let inner := match kind with
      | .plain items => (items.state .verbose).getD c.verbose
      | .capture => c.verbose
    return {
      cursor := { c with verbose := inner }
      run := ⟨c.pos, []⟩
      stack := .group p.run opened kind c.verbose :: p.stack
      names }

def closeGroup (p : Progress) : Except Fault Progress :=
  match p.closeBranches with
  | (body, .group before opened kind verbose :: stack) =>
    let c := { p.cursor with verbose }.bump
    .ok { p with
      cursor := c
      run := before.push (.group (c.since opened.start) kind body)
      stack }
  | _ => fail .groupUnopened p.cursor.headSpan

def startBranch (p : Progress) : Progress :=
  let done := p.run.tree p.cursor.pos
  let stack := match p.stack with
    | .branches start earlier :: rest => .branches start (done :: earlier) :: rest
    | stack => .branches p.run.start [done] :: stack
  let c := p.cursor.bump
  { p with cursor := c, run := ⟨c.pos, []⟩, stack }

/-- The part that a repetition at the cursor applies to, and the run without it. -/
def takeOperand (p : Progress) : Except Fault (Tree × PartRun) :=
  match p.run.parts with
  | [] | .empty _ :: _ | .flags .. :: _ => fail .repetitionMissing p.cursor.headSpan
  | t :: parts => .ok (t, { p.run with parts })

/-- Puts a repetition in the place of its operand. -/
def repeatLast (p : Progress) (operand : Tree) (before : PartRun) (least : Nat)
    (most : Option Nat) (c : Cursor) : Progress :=
  let (greedy, c) := readGreed c
  let tree := Tree.repetition ⟨operand.span.start, c.pos⟩ least most greedy operand
  { p with cursor := c, run := before.push tree }

def addRepetition (p : Progress) (least : Nat) (most : Option Nat) : Except Fault Progress := do
  let (operand, before) ← p.takeOperand
  return p.repeatLast operand before least most p.cursor.bump

def addCounted (p : Progress) : Except Fault Progress := do
  let start := p.cursor.pos
  let (operand, before) ← p.takeOperand
  let ((least, most), c) ← readCounts p.cursor
  let next := p.repeatLast operand before least most c
  if most.any (· < least) then fail .repetitionCountInvalid (next.cursor.since start)
  return next

/-- Adds one part that a reader finds at the cursor. -/
def addPart (p : Progress) (read : Cursor → Except Fault (Tree × Cursor)) :
    Except Fault Progress := do
  let (t, c) ← read p.cursor
  return { p with cursor := c, run := p.run.push t }

/-- A single character, a dot or an assertion of one character. -/
def readSingle (x : Char) (c : Cursor) : Except Fault (Tree × Cursor) :=
  match x with
  | '.' => .ok (.dot c.headSpan, c.bump)
  | '^' => .ok (.assertion c.headSpan .lineStart, c.bump)
  | '$' => .ok (.assertion c.headSpan .lineEnd, c.bump)
  | x => .ok (.literal ⟨c.headSpan, x, false⟩, c.bump)

def step (p : Progress) (x : Char) : Except Fault Progress :=
  match x with
  | '(' => p.openGroup
  | ')' => p.closeGroup
  | '|' => .ok p.startBranch
  | '[' => p.addPart readBracketed
  | '?' => p.addRepetition 0 (some 1)
  | '*' => p.addRepetition 0 none
  | '+' => p.addRepetition 1 none
  | '{' => p.addCounted
  | '\\' => p.addPart readEscape
  | x => p.addPart (readSingle x)

def finish (p : Progress) : Except Fault Tree :=
  match p.closeBranches with
  | (t, []) => .ok t
  | (_, .group _ opened .. :: _) => fail .groupUnclosed opened
  | (_, .branches start _ :: _) => fail .groupUnclosed (.point start)

/-- Every step takes at least one character, so as many steps as there are characters reach the
end. -/
def run' : Nat → Progress → Except Fault Tree
  | 0, p => p.finish
  | n + 1, p =>
    let p := { p with cursor := p.cursor.skipSpace }
    match p.cursor.head? with
    | none => p.finish
    | some x => do run' n (← p.step x)

end Progress

/-! ## Nesting -/

mutual

/-- The first part of a class that lies deeper than the limit. -/
def ClassTree.tooDeep? (depth : Nat) : ClassTree → Option Span
  | .bracketed span _ body => if depth = 0 then some span else body.tooDeep? (depth - 1)
  | .union span items => if depth = 0 then some span else ClassTree.anyTooDeep? (depth - 1) items
  | .operation span _ left right =>
    if depth = 0 then some span
    else (left.tooDeep? (depth - 1)).or (right.tooDeep? (depth - 1))
  | _ => none

def ClassTree.anyTooDeep? (depth : Nat) : List ClassTree → Option Span
  | [] => none
  | t :: ts => (t.tooDeep? depth).or (ClassTree.anyTooDeep? depth ts)

end

mutual

/-- The first part of a pattern that lies deeper than the limit. -/
def Tree.tooDeep? (depth : Nat) : Tree → Option Span
  | .bracketed span _ body => if depth = 0 then some span else body.tooDeep? (depth - 1)
  | .repetition span _ _ _ body => if depth = 0 then some span else body.tooDeep? (depth - 1)
  | .group span _ body => if depth = 0 then some span else body.tooDeep? (depth - 1)
  | .alternation span branches =>
    if depth = 0 then some span else Tree.anyTooDeep? (depth - 1) branches
  | .concat span parts => if depth = 0 then some span else Tree.anyTooDeep? (depth - 1) parts
  | _ => none

def Tree.anyTooDeep? (depth : Nat) : List Tree → Option Span
  | [] => none
  | t :: ts => (t.tooDeep? depth).or (Tree.anyTooDeep? depth ts)

end

/-- The tree of a pattern, or the first fault in it. -/
def Tree.parse? (pattern : List Char) : Except Fault Tree := do
  let start : Progress := { cursor := { rest := pattern }, run := ⟨{}, []⟩ }
  let tree ← start.run' (pattern.length + 1)
  match tree.tooDeep? nestLimit with
  | some span => fail .nestLimitExceeded span
  | none => return tree

end AnchorOutline.Regex
