import AnchorOutline.Json.Printer
import AnchorOutline.Json.Record
import AnchorOutline.Outline.Provider

/-!
# Listings of symbols

Symbols are listed one a line, lines counted from one and columns from zero, or as a JSON array of
records.

* `SymbolInformation.line`, `plainListing` : the lines;
* `SymbolInformation.toJson`, `jsonListing` : the records;
* `SymbolInformation.decoder` : reading a record.
-/

namespace AnchorOutline

open Json (RecordField Decoder)

/-! ## Lines -/

/-- Where the section begins and ends, and its name. -/
def SymbolInformation.line (s : SymbolInformation) : String :=
  let r := s.range
  s!"{r.startLine + 1}:{r.startCol}-{r.endLine + 1}:{r.endCol}  {s.name}"

def plainListing (symbols : List SymbolInformation) : String :=
  "\n".intercalate (symbols.map SymbolInformation.line)

/-! ## Ranges -/

namespace LineRange

structure Draft where
  startLine : Option Nat := none
  startCol : Option Nat := none
  endLine : Option Nat := none
  endCol : Option Nat := none

def fields : List (RecordField Draft) := [
  .stored "start_line" [] true (·.startLine) (fun d x => { d with startLine := x }) .count,
  .stored "start_col" [] true (·.startCol) (fun d x => { d with startCol := x }) .count,
  .stored "end_line" [] true (·.endLine) (fun d x => { d with endLine := x }) .count,
  .stored "end_col" [] true (·.endCol) (fun d x => { d with endCol := x }) .count]

def ofDraft (d : Draft) : LineRange :=
  ⟨d.startLine.getD 0, d.startCol.getD 0, d.endLine.getD 0, d.endCol.getD 0⟩

def decoder : Decoder LineRange := .record "struct SymbolRange" fields {} ofDraft

def toJson (r : LineRange) : Json :=
  .object [("start_line", .integer r.startLine), ("start_col", .integer r.startCol),
    ("end_line", .integer r.endLine), ("end_col", .integer r.endCol)]

end LineRange

/-! ## Symbols of sections -/

namespace Symbol

structure Draft where
  name : Option String := none
  range : Option LineRange := none

def fields : List (RecordField Draft) := [
  .stored "name" [] true (·.name) (fun d x => { d with name := x }) .string,
  .stored "range" [] true (·.range) (fun d x => { d with range := x }) LineRange.decoder]

def ofDraft (d : Draft) : Symbol := ⟨d.name.getD "", d.range.getD ⟨0, 0, 0, 0⟩⟩

def decoder : Decoder Symbol := .record "struct Symbol" fields {} ofDraft

def toJson (s : Symbol) : Json := .object [("name", .string s.name), ("range", s.range.toJson)]

end Symbol

/-! ## Symbols of documents -/

namespace SymbolInformation

structure LocationDraft where
  uri : Option String := none
  range : Option LineRange := none

def locationFields : List (RecordField LocationDraft) := [
  .stored "uri" [] true (·.uri) (fun d x => { d with uri := x }) .string,
  .stored "range" [] true (·.range) (fun d x => { d with range := x }) LineRange.decoder]

/-- An address with a range. -/
def locationDecoder : Decoder (String × LineRange) :=
  .record "struct Location" locationFields {} fun d => (d.uri.getD "", d.range.getD ⟨0, 0, 0, 0⟩)

structure Draft where
  name : Option String := none
  kind : Option Unit := none
  containerName : Option String := none
  location : Option (String × LineRange) := none

def fields : List (RecordField Draft) := [
  .stored "name" [] true (·.name) (fun d x => { d with name := x }) .string,
  .stored "kind" [] true (·.kind) (fun d x => { d with kind := x }) (.tag "string"),
  .stored "container_name" [] true (·.containerName) (fun d x => { d with containerName := x })
    .string,
  .stored "location" [] true (·.location) (fun d x => { d with location := x }) locationDecoder]

def ofDraft (d : Draft) : SymbolInformation :=
  let (uri, range) := d.location.getD ("", ⟨0, 0, 0, 0⟩)
  ⟨d.name.getD "", d.containerName.getD "", uri, range⟩

def decoder : Decoder SymbolInformation := .record "struct SymbolInformation" fields {} ofDraft

def toJson (s : SymbolInformation) : Json :=
  .object [("name", .string s.name), ("kind", .string "string"),
    ("container_name", .string s.containerName),
    ("location", .object [("uri", .string s.uri), ("range", s.range.toJson)])]

end SymbolInformation

def jsonListing (symbols : List SymbolInformation) : String :=
  Json.pretty (.array (symbols.map SymbolInformation.toJson))

/-! ## Selectors -/

namespace Selector

def decoder : Decoder Selector :=
  .record "struct DocumentSelector"
    [.stored "schemes" [] true id (fun _ x => x) (.list .string)] none fun d => ⟨d.getD []⟩

def toJson (s : Selector) : Json := .object [("schemes", .array (s.schemes.map .string))]

end Selector

end AnchorOutline
