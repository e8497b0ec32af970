/-!
# Saved pattern sets

A pattern set is a list of patterns under an id. Sets are kept in a list; the id is looked up from
the front, so of two sets with one id only the first is ever found or replaced.

* `PatternSet.ofPatterns`, `PatternSet.texts` : from pattern texts to a set and back;
* `PatternSet.find?` : the set of an id;
* `PatternSet.upsert` : replaces the set of an id, or adds one.
-/

namespace AnchorOutline

/-- A pattern as it is saved. The flags are kept for others: a pattern is always taken as a regular
expression that minds upper and lower case. -/
structure SavedPattern where
  ignoreCase : Bool := false
  isRegex : Bool := true
  pattern : String
  deriving Repr, DecidableEq

structure PatternSet where
  id : String
  patterns : List SavedPattern
  deriving Repr, DecidableEq

namespace PatternSet

def ofPatterns (id : String) (patterns : List String) : PatternSet :=
  ⟨id, patterns.map fun p => { pattern := p }⟩

def texts (s : PatternSet) : List String := s.patterns.map SavedPattern.pattern

def find? (sets : List PatternSet) (id : String) : Option PatternSet := sets.find? (·.id == id)

def isKnown (sets : List PatternSet) (id : String) : Bool := sets.any (·.id == id)

/-- Replaces the first set with the same id, or adds the set at the end. -/
def upsert : List PatternSet → PatternSet → List PatternSet
  | [], new => [new]
  | s :: rest, new => if s.id = new.id then new :: rest else s :: upsert rest new

theorem texts_ofPatterns (id : String) (patterns : List String) :
    (ofPatterns id patterns).texts = patterns := by
  simp [ofPatterns, texts, Function.comp_def]

end PatternSet

end AnchorOutline
