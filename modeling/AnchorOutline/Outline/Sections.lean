import AnchorOutline.Regex.Basic

/-!
# Sections

A line in which some pattern finds a match is an anchor. An anchor opens a section that runs up to
the line before the next anchor, or up to the last line. For every pattern that matches the
anchor, in the order of the patterns, the section gets a symbol that is named by the match.

* `Matcher.ofPatterns` : compiles patterns, failing on the first that is refused;
* `Matcher.matchSet` : the first match of each pattern in a line;
* `Scan.step`, `Scan.close` : taking in a line, and closing the section that is open;
* `Matcher.scan?`, `Matcher.symbols` : the symbols of all sections;
* `extract` : the symbols for patterns and lines.
-/

namespace AnchorOutline

/-! ## Symbols -/

/-- A stretch of lines and columns, both counted from zero. Columns count characters. -/
structure LineRange where
  startLine : Nat
  startCol : Nat
  endLine : Nat
  endCol : Nat
  deriving Repr, DecidableEq

/-- A section under a name. -/
structure Symbol where
  name : String
  range : LineRange
  deriving Repr, DecidableEq

/-! ## Matchers -/

/-- A pattern that does not compile, with the reason. -/
structure InvalidPattern where
  pattern : String
  source : Regex.CompileError
  deriving Repr, DecidableEq

namespace InvalidPattern

def message (e : InvalidPattern) : String :=
  s!"Invalid pattern `{e.pattern}`: {e.source.message}"

end InvalidPattern

/-- Compiled patterns in the order of the user: each finds its first match in a line. -/
structure Matcher where
  finders : List (String → Option String)

/-- A line that some pattern matches, with the matches in the order of the patterns. -/
structure Anchor where
  line : Nat
  names : List String
  deriving Repr, DecidableEq

namespace Matcher

def finder (engine : Regex.Engine) (pattern : String) :
    Except InvalidPattern (String → Option String) :=
  (engine pattern).mapError fun source => ⟨pattern, source⟩

/-- Compiles patterns one by one and stops at the first that is refused. -/
def ofPatterns (engine : Regex.Engine) (patterns : List String) :
    Except InvalidPattern Matcher := do
  return ⟨← patterns.mapM (finder engine)⟩

def size (m : Matcher) : Nat := m.finders.length

def isEmpty (m : Matcher) : Bool := m.finders.isEmpty

/-- The first match of each pattern that matches the line. -/
def matchSet (m : Matcher) (line : String) : List String :=
  m.finders.filterMap fun find => find line

end Matcher

/-! ## Scanning -/

/-- Where a scan stands: the symbols of the sections behind it, and the anchor of the one that it is
in. The symbols of a section are known only when the section ends. -/
structure Scan where
  symbols : List Symbol := []
  opened : Option Anchor := none
  deriving Repr, DecidableEq

/-- The number before another; there is none before zero. -/
def before? : Nat → Option Nat
  | 0 => none
  | n + 1 => some n

/-- The symbols of a section: they share its range, which ends behind its last line. -/
def sectionSymbols (anchor : Anchor) (last : Nat) (lastText : String) : List Symbol :=
  anchor.names.map fun name => ⟨name, ⟨anchor.line, 0, last, lastText.length⟩⟩

namespace Scan

/-- Closes the section that is open, if one is, on the line before `stop`. There has to be such a
line. -/
def close (texts : Array String) (stop : Nat) (s : Scan) : Option Scan :=
  match s.opened with
  | none => some s
  | some anchor => do
    let last ← before? stop
    let lastText ← texts[last]?
    return { symbols := s.symbols ++ sectionSymbols anchor last lastText }

/-- Takes in a line. An anchor closes the section that is open and opens another. -/
def step (m : Matcher) (texts : Array String) (s : Scan) (line : String × Nat) : Option Scan :=
  match m.matchSet line.1 with
  | [] => some s
  | names => do
    let s ← s.close texts line.2
    return { s with opened := some ⟨line.2, names⟩ }

end Scan

namespace Matcher

/-- Scans lines from the first to the last, and closes the section that is open then. It would fail
only on a section that closes where there is no line. -/
def scan? (m : Matcher) (lines : List String) : Option (List Symbol) :=
  if m.isEmpty then some []
  else do
    let texts := lines.toArray
    let s ← lines.zipIdx.foldlM (Scan.step m texts) {}
    return (← s.close texts lines.length).symbols

/-- The symbols of all sections, from the first line to the last. -/
def symbols (m : Matcher) (lines : List String) : List Symbol := (m.scan? lines).getD []

end Matcher

/-- The symbols that patterns give to lines. One pattern that is refused fails the whole. -/
def extract (engine : Regex.Engine) (patterns lines : List String) :
    Except InvalidPattern (List Symbol) := do
  return (← Matcher.ofPatterns engine patterns).symbols lines

end AnchorOutline
