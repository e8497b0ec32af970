import AnchorOutline.Log
import AnchorOutline.Outline.Document
import AnchorOutline.Outline.Sections

/-!
# Symbol providers

A provider answers for the symbols of documents by a list of patterns that never changes. Every
request compiles the patterns and scans the whole document.

* `Provider.symbols` : the symbols of a document, or the first pattern that is refused;
* `Provider.symbolsOrNone` : the same for a caller that has no use for the reason.
-/

namespace AnchorOutline

/-- A symbol with the document it is in, as it is handed to whoever asked for it. The name is
also given as that of the container, and every symbol is of one kind. -/
structure SymbolInformation where
  name : String
  containerName : String
  uri : String
  range : LineRange
  deriving Repr, DecidableEq

/-- A list of patterns that answers for the symbols of documents. -/
structure Provider where
  patterns : List String
  deriving Repr, DecidableEq

namespace Provider

def logTarget : String := "dynsym_core::provider"

def symbols (engine : Regex.Engine) (p : Provider) (d : Document) :
    Except InvalidPattern (List SymbolInformation) := do
  let found ← extract engine p.patterns d.lines
  return found.map fun s => ⟨s.name, s.name, d.uri, s.range⟩

/-- The symbols of a document, and none at all when a pattern is refused. -/
def symbolsOrNone (engine : Regex.Engine) (p : Provider) (d : Document) :
    List SymbolInformation :=
  (p.symbols engine d).toOption.getD []

def foundRecord (d : Document) (count : Nat) : LogRecord :=
  ⟨.debug, logTarget, s!"Extracted {count} symbols from {d.uri}"⟩

end Provider

end AnchorOutline
