import AnchorOutline.Text.Lines

/-!
# Documents

A document is a text with an address. The scheme of the address is what stands before its first
colon; an address without one counts as untitled.

* `Document.lines` : the lines by which everything else refers to the text;
* `Selector.selects` : whether a document's scheme is among those asked for.
-/

namespace AnchorOutline

structure Document where
  uri : String
  text : String
  deriving Repr, DecidableEq

namespace Document

def ofPath (path text : String) : Document := ⟨"file://" ++ path, text⟩

/-- What stands before the first colon of the address. -/
def scheme (d : Document) : String :=
  let cs := d.uri.toList
  if cs.contains ':' then String.ofList (cs.takeWhile (· != ':')) else "untitled"

def lines (d : Document) : List String := Text.lines d.text

def lineCount (d : Document) : Nat := (Text.split '\n' d.text.toList).length

end Document

/-- The schemes of the documents that something applies to. -/
structure Selector where
  schemes : List String
  deriving Repr, DecidableEq

namespace Selector

/-- Saved files and buffers that were never saved. -/
def filesAndUntitled : Selector := ⟨["file", "untitled"]⟩

def selects (s : Selector) (d : Document) : Bool := s.schemes.contains d.scheme

end Selector

end AnchorOutline
