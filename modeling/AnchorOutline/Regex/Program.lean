import AnchorOutline.Regex.Fault
import AnchorOutline.Regex.Pattern

/-!
# Programs for patterns

A pattern is compiled into numbered instructions, from its end to its beginning, so that every
part knows where to go on. A branch names the preferred way first.

* `Instr`, `Program` : the instructions and where they start;
* `emit` : adds the instructions for a pattern that goes on at a given place;
* `Program.ofPattern?` : the program, unless it would be too large.
-/

namespace AnchorOutline.Regex

open Unicode (CharSet)

/-- One instruction. -/
inductive Instr where
  | accept
  | chars (set : CharSet) (next : Nat)
  | look (condition : Look) (next : Nat)
  | split (preferred other : Nat)
  deriving Inhabited

/-- Instructions with the place where a match begins. -/
structure Program where
  code : Array Instr
  entry : Nat

/-- Adds instructions that go on at a place; gives back where they begin. -/
abbrev Emit := Nat → Array Instr → Nat × Array Instr

namespace Emit

def one (i : Instr) (code : Array Instr) : Nat × Array Instr := (code.size, code.push i)

/-- A branch between going through a part and going on elsewhere. -/
def branch (greedy : Bool) (through past : Nat) : Instr :=
  if greedy then .split through past else .split past through

def times (body : Emit) : Nat → Emit
  | 0, next, code => (next, code)
  | n + 1, next, code =>
    let (start, code) := body next code
    times body n start code

/-- Up to `n` copies: each of them may be the last, and then all goes on at `past`. -/
def upTo (greedy : Bool) (body : Emit) (past : Nat) : Nat → Emit
  | 0, next, code => (next, code)
  | n + 1, next, code =>
    let (start, code) := body next code
    let (here, code) := one (branch greedy start past) code
    upTo greedy body past n here code

/-- At least one copy: behind each a branch leads back to it. The result is where the copy
begins, and the place of the branch. -/
def loop (greedy : Bool) (body : Emit) (next : Nat) (code : Array Instr) :
    Nat × Nat × Array Instr :=
  let (back, code) := one .accept code
  let (start, code) := body back code
  (start, back, code.setIfInBounds back (branch greedy start next))

end Emit

/-- The instructions for a pattern. A body that may be empty is repeated as an optional loop of at
least one copy, so that an empty copy does not come before a way out. -/
def emit : Pattern → Emit
  | .empty => fun next code => (next, code)
  | .chars s => fun next code => Emit.one (.chars s next) code
  | .look l => fun next code => Emit.one (.look l next) code
  | .seq p q => fun next code =>
    let (middle, code) := emit q next code
    emit p middle code
  | .choice p q => fun next code =>
    let (other, code) := emit q next code
    let (preferred, code) := emit p next code
    Emit.one (.split preferred other) code
  | .repetition least (some most) greedy p => fun next code =>
    let (middle, code) := Emit.upTo greedy (emit p) next (most - least) next code
    Emit.times (emit p) least middle code
  | .repetition least none greedy p => fun next code =>
    let (start, back, code) := Emit.loop greedy (emit p) next code
    if least = 0 then
      if p.minLength.any (0 < ·) then (back, code)
      else Emit.one (Emit.branch greedy start next) code
    else Emit.times (emit p) (least - 1) start code

def stateBytes : Nat := 32

/-- The program of a pattern, unless it would take more than the limit. -/
def Program.ofPattern? (p : Pattern) : Option Program :=
  if p.states * stateBytes > sizeLimit then none
  else
    let (accepting, code) := Emit.one .accept #[]
    let (entry, code) := emit p accepting code
    some ⟨code, entry⟩

end AnchorOutline.Regex
