import AnchorOutline.Regex.Program

/-!
# The leftmost match

All ways through a program are followed side by side, in order of preference, one character at a
time; no instruction is followed twice at one place, since the later way would be the less
preferred one. Ways that begin further left come first. A way that accepts ends all ways behind
it, so the last one to accept is the leftmost match, and among those the preferred one.

* `Program.follow` : the instructions that wait for a character, from a given one on;
* `Program.find?` : where the leftmost match begins and ends.
-/

namespace AnchorOutline.Regex

/-- A way through the program: the instruction it is at, and where it began. -/
structure Thread where
  position : Nat
  start : Nat
  deriving Inhabited

/-- The threads at one place, most preferred first, and for each instruction the last place, from
one on, where it was followed. -/
structure Front where
  threads : Array Thread
  seen : Array Nat

namespace Program

/-- Follows branches and conditions from the given instructions, in order, up to those that take
a character or accept. -/
def follow (p : Program) (before after : Option Char) (place start : Nat) :
    Nat → List Nat → Front → Front
  | 0, _, f => f
  | _ + 1, [], f => f
  | n + 1, i :: todo, f =>
    if f.seen[i]? = some place then p.follow before after place start n todo f
    else
      let seen := f.seen.setIfInBounds i place
      match p.code[i]? with
      | none => p.follow before after place start n todo ⟨f.threads, seen⟩
      | some (.split a b) => p.follow before after place start n (a :: b :: todo) ⟨f.threads, seen⟩
      | some (.look l next) =>
        let todo := if l.holds before after then next :: todo else todo
        p.follow before after place start n todo ⟨f.threads, seen⟩
      | some _ =>
        p.follow before after place start n todo ⟨f.threads.push ⟨i, start⟩, seen⟩

/-- Enough steps to follow every instruction once, a branch putting off two. -/
def followBound (p : Program) : Nat := 2 * p.code.size + 2

/-- Moves the threads over one character, most preferred first, up to one that accepts. The result
is the front behind the character and the start of the thread that accepted. -/
def move (p : Program) (c : Option Char) (after : Option Char) (place : Nat) :
    List Thread → Front → Front × Option Nat
  | [], f => (f, none)
  | t :: ts, f =>
    match p.code[t.position]? with
    | some .accept => (f, some t.start)
    | some (.chars s next) =>
      if c.any s.contains then
        p.move c after place ts (p.follow c after place t.start p.followBound [next] f)
      else p.move c after place ts f
    | _ => p.move c after place ts f

/-- Runs over the text behind `before`. Until a match is found, a new way begins at each place. -/
def scan (p : Program) (before : Option Char) (index : Nat) (front : Front)
    (found : Option (Nat × Nat)) (text : List Char) : Option (Nat × Nat) :=
  let front :=
    if found.isNone then
      p.follow before text.head? (index + 1) index p.followBound [p.entry] front
    else front
  let threads := front.threads.toList
  match text with
  | [] =>
    match (p.move none none (index + 2) threads ⟨#[], front.seen⟩).2 with
    | some start => some (start, index)
    | none => found
  | c :: rest =>
    let (next, accepted) := p.move (some c) rest.head? (index + 2) threads ⟨#[], front.seen⟩
    let found := match accepted with
      | some start => some (start, index)
      | none => found
    if next.threads.isEmpty && found.isSome then found
    else p.scan (some c) (index + 1) next found rest

/-- Where the leftmost match begins and ends, in characters. -/
def find? (p : Program) (text : List Char) : Option (Nat × Nat) :=
  p.scan none 0 ⟨#[], Array.replicate p.code.size 0⟩ none text

end Program

end AnchorOutline.Regex
