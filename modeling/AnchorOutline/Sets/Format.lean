import AnchorOutline.Json.Printer
import AnchorOutline.Json.Record
import AnchorOutline.Sets.PatternSet

/-!
# The written form of pattern sets

Patterns and sets are JSON records. Some of their fields had other names before, which are still
read; flags that are left out take their usual values, and a set without patterns is empty.

* `SavedPattern.decoder`, `PatternSet.decoder` : reading;
* `SavedPattern.toJson`, `PatternSet.toJson` : writing.
-/

namespace AnchorOutline

open Json (RecordField Decoder)

/-! ## Patterns -/

namespace SavedPattern

structure Draft where
  ignoreCase : Option Bool := none
  isRegex : Option Bool := none
  pattern : Option String := none

def fields : List (RecordField Draft) := [
  .stored "ignoreCase" ["ignore_case"] false (·.ignoreCase) (fun d x => { d with ignoreCase := x })
    .bool,
  .stored "isRegex" ["regular_expression"] false (·.isRegex) (fun d x => { d with isRegex := x })
    .bool,
  .stored "pattern" ["symbol"] true (·.pattern) (fun d x => { d with pattern := x }) .string]

def ofDraft (d : Draft) : SavedPattern :=
  ⟨d.ignoreCase.getD false, d.isRegex.getD true, d.pattern.getD ""⟩

def decoder : Decoder SavedPattern := .record "struct PatternDefinition" fields {} ofDraft

def toJson (p : SavedPattern) : Json :=
  .object [("ignoreCase", .bool p.ignoreCase), ("isRegex", .bool p.isRegex),
    ("pattern", .string p.pattern)]

end SavedPattern

/-! ## Sets -/

namespace PatternSet

structure Draft where
  id : Option String := none
  patterns : Option (List SavedPattern) := none

def fields : List (RecordField Draft) := [
  .stored "id" [] true (·.id) (fun d x => { d with id := x }) .string,
  .stored "patterns" ["symbols"] false (·.patterns) (fun d x => { d with patterns := x })
    (.list SavedPattern.decoder)]

def ofDraft (d : Draft) : PatternSet := ⟨d.id.getD "", d.patterns.getD []⟩

def decoder : Decoder PatternSet := .record "struct NamedPatternSet" fields {} ofDraft

def toJson (s : PatternSet) : Json :=
  .object [("id", .string s.id), ("patterns", .array (s.patterns.map SavedPattern.toJson))]

end PatternSet

end AnchorOutline
