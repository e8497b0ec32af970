/-!
# Sets of characters as sorted ranges

A set of characters is kept as an increasing array of disjoint ranges of code points that do not
touch, so a membership test is a binary search and every Boolean operation is a merge.

* `CharSet.ofRanges` : any ranges, put in normal form;
* `union`, `complement`, `inter`, `diff`, `symmDiff` : the Boolean operations; the complement is
  taken among the code points up to a given top;
* `contains` : membership of a character;
* `CharSet.decode` : the written form of the tables, hexadecimal ranges such as `41-5A AA C0-D6/2`,
  where `/2` takes every second code point.
-/

namespace AnchorOutline.Unicode

/-- The code points from `lo` to `hi`, both included. -/
structure CharRange where
  lo : Nat
  hi : Nat
  deriving Repr, DecidableEq, Inhabited

/-- A set of code points, as increasing disjoint ranges that do not touch. -/
structure CharSet where
  ranges : Array CharRange
  deriving Repr, DecidableEq, Inhabited

def lastCodePoint : Nat := 0x10FFFF

namespace CharSet

def empty : CharSet := ⟨#[]⟩

def isEmpty (s : CharSet) : Bool := s.ranges.isEmpty

/-! ## Normal form -/

/-- Joins a range to increasing disjoint ranges whose last one starts no later than it. -/
def appendRange (acc : Array CharRange) (r : CharRange) : Array CharRange :=
  match acc.back? with
  | some last => if r.lo ≤ last.hi + 1 then acc.pop.push ⟨last.lo, max last.hi r.hi⟩ else acc.push r
  | none => acc.push r

/-- The set that the given ranges cover, in whatever order they come. -/
def ofRanges (rs : List CharRange) : CharSet :=
  let sorted := (rs.filter fun r => r.lo ≤ r.hi).mergeSort fun a b => a.lo ≤ b.lo
  ⟨sorted.foldl appendRange #[]⟩

def ofRange (lo hi : Nat) : CharSet := ofRanges [⟨lo, hi⟩]

def singleton (c : Char) : CharSet := ofRange c.toNat c.toNat

/-! ## Boolean operations -/

def union (a b : CharSet) : CharSet := ofRanges (a.ranges.toList ++ b.ranges.toList)

def unions (sets : List CharSet) : CharSet := ofRanges (sets.flatMap fun s => s.ranges.toList)

/-- The gaps between increasing ranges, from `start` up to `top`. -/
def gaps (top start : Nat) : List CharRange → List CharRange
  | [] => if start ≤ top then [⟨start, top⟩] else []
  | r :: rs =>
    if start < r.lo then ⟨start, r.lo - 1⟩ :: gaps top (r.hi + 1) rs else gaps top (r.hi + 1) rs

/-- The code points up to `top` that are not in the set. -/
def complementBelow (top : Nat) (s : CharSet) : CharSet := ofRanges (gaps top 0 s.ranges.toList)

def complement (s : CharSet) : CharSet := complementBelow lastCodePoint s

def inter (a b : CharSet) : CharSet := (a.complement.union b.complement).complement

def diff (a b : CharSet) : CharSet := (a.complement.union b).complement

def symmDiff (a b : CharSet) : CharSet := (a.union b).diff (a.inter b)

/-! ## Membership -/

/-- Binary search for `n` among the ranges with indices from `lo` up to `hi`. -/
def search (rs : Array CharRange) (n lo hi : Nat) : Bool :=
  if lo < hi then
    let mid := (lo + hi) / 2
    match rs[mid]? with
    | some r =>
      if n < r.lo then search rs n lo mid
      else if r.hi < n then search rs n (mid + 1) hi
      else true
    | none => false
  else false
termination_by hi - lo

def containsNat (s : CharSet) (n : Nat) : Bool := search s.ranges n 0 s.ranges.size

def contains (s : CharSet) (c : Char) : Bool := s.containsNat c.toNat

def top? (s : CharSet) : Option Nat := s.ranges.back?.map CharRange.hi

/-! ## Written form -/

def hexDigit? (c : Char) : Option Nat :=
  if '0' ≤ c ∧ c ≤ '9' then some (c.toNat - '0'.toNat)
  else if 'A' ≤ c ∧ c ≤ 'F' then some (c.toNat - 'A'.toNat + 10)
  else if 'a' ≤ c ∧ c ≤ 'f' then some (c.toNat - 'a'.toNat + 10)
  else none

/-- One item of a table while it is being read: the bounds so far and the step. -/
structure Pending where
  lo : Nat := 0
  hi : Option Nat := none
  step : Option Nat := none

namespace Pending

def digit (p : Pending) (d : Nat) : Pending :=
  match p.step, p.hi with
  | some s, _ => { p with step := some (16 * s + d) }
  | none, some h => { p with hi := some (16 * h + d) }
  | none, none => { p with lo := 16 * p.lo + d }

/-- The ranges of a finished item: one, or with a step one for each code point. -/
def ranges (p : Pending) : List CharRange :=
  let hi := p.hi.getD p.lo
  match p.step with
  | some (s + 1) =>
    (List.range ((hi - p.lo) / (s + 1) + 1)).map fun i => ⟨p.lo + i * (s + 1), p.lo + i * (s + 1)⟩
  | _ => [⟨p.lo, hi⟩]

end Pending

/-- Reads the items of a table from left to right. -/
def decodeItems : List Char → Option Pending → List CharRange
  | [], none => []
  | [], some p => p.ranges
  | c :: cs, p? =>
    match hexDigit? c with
    | some d => decodeItems cs (some ((p?.getD {}).digit d))
    | none =>
      match p? with
      | none => decodeItems cs none
      | some p =>
        if c = '-' then decodeItems cs (some { p with hi := some 0 })
        else if c = '/' then decodeItems cs (some { p with step := some 0 })
        else p.ranges ++ decodeItems cs none

def decode (table : String) : CharSet := ofRanges (decodeItems table.toList none)

end CharSet

end AnchorOutline.Unicode
