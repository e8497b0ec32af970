import AnchorOutline.Json.Reader
import AnchorOutline.Sets.Format
import AnchorOutline.Text.Blank

/-!
# The config file

The config file holds the saved pattern sets, the filter of the log, and whatever else others keep
there, which is left as it is.

* `Config.parse` : the config in a text, a blank text being the empty config;
* `Config.text` : the text of a config.
-/

namespace AnchorOutline

open Json (RecordField Decoder Reader)

structure Config where
  sets : List PatternSet := []
  logFilter : Option String := none
  /-- Members that are not known here, in increasing order of their keys. -/
  extra : List (String × Json) := []
  deriving Repr, Inhabited

namespace Config

/-! ## Reading -/

structure Draft where
  sets : Option (List PatternSet) := none
  logFilter : Option (Option String) := none
  extra : List (String × Json) := []

def fields : List (RecordField Draft) := [
  .stored "definitions" [] false (·.sets) (fun d x => { d with sets := x })
    (.list PatternSet.decoder),
  .stored "log_filter" [] false (·.logFilter) (fun d x => { d with logFilter := x })
    (.optional .string)]

def keep (depth : Nat) (key : String) (d : Draft) : Reader Draft := fun cs => do
  let (v, cs) ← Json.readValue depth cs
  return ({ d with extra := Json.insertMember key v d.extra }, cs)

def ofDraft (d : Draft) : Config := ⟨d.sets.getD [], d.logFilter.join, d.extra⟩

def decoder : Decoder Config := .openRecord "struct Config" fields keep {} ofDraft

def parse (text : String) : Except Json.Error Config :=
  if (Text.trim text).isEmpty then .ok {} else Json.decode decoder text

/-! ## Writing -/

def toJson (c : Config) : Json :=
  .object (("definitions", .array (c.sets.map PatternSet.toJson)) ::
    (c.logFilter.map fun f => ("log_filter", Json.string f)).toList ++ c.extra)

def text (c : Config) : String := Json.pretty c.toJson ++ "\n"

end Config

end AnchorOutline
