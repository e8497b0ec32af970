import AnchorOutline.Unicode.CharSet

/-!
# Patterns by what they match

A pattern stripped to its meaning: sets of characters, conditions on a place, sequence, choice in
order of preference, and repetition.

* `Pattern` : the constructors;
* `Look.holds` : when a condition holds between two characters;
* `minLength` : the least number of characters a match can have;
* `matchesOnlyEmpty` : whether a match has no characters;
* `states` : about how many states a program for the pattern has, repetitions written out.
-/

namespace AnchorOutline.Regex

open Unicode (CharSet)

inductive Edge where
  | boundary | inside | start | stop | startHalf | stopHalf
  deriving Repr, DecidableEq, Inhabited

/-- A condition on the place between two characters. -/
inductive Look where
  | textStart
  | textEnd
  | lineStart (crlf : Bool)
  | lineEnd (crlf : Bool)
  | edge (kind : Edge) (word : CharSet)
  deriving Repr, DecidableEq, Inhabited

namespace Look

/-- Whether the condition holds between the character before a place and the one after it. -/
def holds (look : Look) (before after : Option Char) : Bool :=
  match look with
  | textStart => before.isNone
  | textEnd => after.isNone
  | lineStart false => before.isNone || before == some '\n'
  | lineStart true =>
    before.isNone || before == some '\n' || (before == some '\r' && after != some '\n')
  | lineEnd false => after.isNone || after == some '\n'
  | lineEnd true =>
    after.isNone || after == some '\r' || (after == some '\n' && before != some '\r')
  | edge kind word =>
    let left := before.any word.contains
    let right := after.any word.contains
    match kind with
    | .boundary => left != right
    | .inside => left == right
    | .start => !left && right
    | .stop => left && !right
    | .startHalf => !left
    | .stopHalf => !right

end Look

/-- A pattern by what it matches. -/
inductive Pattern where
  /-- Matches the empty text. -/
  | empty
  /-- Matches one character of the set; with the empty set, nothing. -/
  | chars (set : CharSet)
  | look (condition : Look)
  | seq (first second : Pattern)
  /-- Either side; a match of the first is preferred. -/
  | choice (first second : Pattern)
  /-- Between `least` and `most` times; when greedy, as often as possible is preferred. -/
  | repetition (least : Nat) (most : Option Nat) (greedy : Bool) (body : Pattern)
  deriving Repr, Inhabited

namespace Pattern

def ofList : List Pattern → Pattern
  | [] => empty
  | [p] => p
  | p :: ps => seq p (ofList ps)

def anyOf : List Pattern → Pattern
  | [] => chars .empty
  | [p] => p
  | p :: ps => choice p (anyOf ps)

/-- The least number of characters of a match; none when there is no match at all. -/
def minLength : Pattern → Option Nat
  | empty | look _ => some 0
  | chars s => if s.isEmpty then none else some 1
  | seq p q => do return (← p.minLength) + (← q.minLength)
  | choice p q =>
    match p.minLength, q.minLength with
    | some m, some n => some (min m n)
    | some m, none => some m
    | none, n => n
  | repetition least _ _ p => if least = 0 then some 0 else p.minLength.map (· * least)

def matchesOnlyEmpty : Pattern → Bool
  | empty | look _ => true
  | chars _ => false
  | seq p q => p.matchesOnlyEmpty && q.matchesOnlyEmpty
  | choice p q => p.matchesOnlyEmpty && q.matchesOnlyEmpty
  | repetition _ most _ p => most == some 0 || p.matchesOnlyEmpty

/-- A repetition whose bounds say no more than they need to: never is the empty text, once is the
body, and of a body that matches only the empty text one copy is enough. -/
def repeated (least : Nat) (most : Option Nat) (greedy : Bool) (body : Pattern) : Pattern :=
  let (least, most) :=
    if body.matchesOnlyEmpty then (min least 1, some ((most.map (min · 1)).getD 1))
    else (least, most)
  if most = some 0 then empty
  else if least = 1 ∧ most = some 1 then body
  else repetition least most greedy body

/-- About how many states a program over the bytes of characters has. -/
def states : Pattern → Nat
  | empty | look _ => 1
  | chars s =>
    let wide := s.ranges.foldl (fun n r => if r.hi < 0x80 then n else n + 1) 0
    if wide = 0 then 1 else 2 + 2 * wide
  | seq p q => p.states + q.states
  | choice p q => 1 + p.states + q.states
  | repetition least most _ p =>
    match most with
    | none => max 1 least * p.states + 2
    | some m => least * p.states + (m - least) * (p.states + 1) + 1

end Pattern

end AnchorOutline.Regex
