import AnchorOutline.Outline.Provider
import AnchorOutline.Proofs.Text

/-!
# Line breaks

A line is ended by a line feed, with a carriage return before it or without, and every line of a text may
be ended in its own way. The lines of a document are the same whichever way is taken, and so are its
symbols, which are found in the lines alone.

* `LineBreak`, `Text.written` : the text of lines, each with a break of its own;
* `Text.lines_written` : its lines;
* `Document.symbols_of_line_breaks` : a document with that text, and another one with other breaks.
-/

namespace AnchorOutline

/-! ## Lines with their breaks -/

/-- What ends a line. -/
inductive LineBreak where
  | feed
  | returnFeed
  deriving Repr, DecidableEq

def LineBreak.text : LineBreak → String
  | feed => "\n"
  | returnFeed => "\r\n"

namespace Text

/-- The text of lines that have a break behind them, and of a last line without one. -/
def written : List (String × LineBreak) → String → String
  | [], last => last
  | (line, b) :: ended, last => line ++ b.text ++ written ended last

/-- Whether a text can be a line: no line feed is in it, and no carriage return at its end. -/
structure IsLine (line : String) : Prop where
  no_feed : '\n' ∉ line.toList
  no_return : line.toList.getLast? ≠ some '\r'

variable {line last : String} {ended : List (String × LineBreak)}

theorem IsLine.stripReturn_eq (h : IsLine line) : stripReturn line.toList = line.toList :=
  if_neg h.no_return

/-- A line with its break is the same line with a carriage return behind it or without, and a line feed. -/
theorem IsLine.exists_break (h : IsLine line) (b : LineBreak) :
    ∃ cs, '\n' ∉ cs ∧ stripReturn cs = line.toList ∧
      ∀ rest : String, (line ++ b.text ++ rest).toList = cs ++ '\n' :: rest.toList := by
  cases b with
  | feed => exact ⟨line.toList, h.no_feed, h.stripReturn_eq, fun rest => by simp [LineBreak.text]⟩
  | returnFeed =>
    exact ⟨line.toList ++ ['\r'], by simp [h.no_feed], by simp [stripReturn],
      fun rest => by simp [LineBreak.text]⟩

/-- Behind a line, whatever its break, the other lines follow. -/
theorem lines_break (h : IsLine line) (b : LineBreak) (rest : String) :
    lines (line ++ b.text ++ rest) = line :: lines rest := by
  obtain ⟨cs, hfeed, hstrip, htext⟩ := h.exists_break b
  rw [lines, htext, split_append hfeed, List.map_cons, hstrip, String.ofList_toList]
  rfl

theorem lines_of_isLine (h : IsLine line) : lines line = [line] := by
  rw [lines, split_of_not_mem h.no_feed, List.map_singleton, h.stripReturn_eq, String.ofList_toList]

/-- The lines of a text are those that it was made of, whatever their breaks. -/
theorem lines_written (h : ∀ line ∈ ended.map Prod.fst ++ [last], IsLine line) :
    lines (written ended last) = ended.map Prod.fst ++ [last] := by
  induction ended with
  | nil => exact lines_of_isLine (h last List.mem_cons_self)
  | cons entry ended ih =>
    obtain ⟨line, b⟩ := entry
    have hline : IsLine line := h line List.mem_cons_self
    have hrest := ih fun line hmem => h line (List.mem_cons_of_mem _ hmem)
    rw [written, lines_break hline, hrest, List.map_cons, List.cons_append]

end Text

/-! ## Documents -/

namespace Document

theorem lineCount_eq (d : Document) : d.lineCount = d.lines.length := by
  rw [lineCount, lines, Text.lines, List.length_map]

/-- The lines of a document are those that its text was made of, whatever the break behind each of them.
With other breaks the symbols of the document are the same, their ranges included, for any patterns. -/
theorem symbols_of_line_breaks (uri : String) {ended : List (String × LineBreak)} {last : String}
    (h : ∀ line ∈ ended.map Prod.fst ++ [last], Text.IsLine line) :
    let d : Document := ⟨uri, Text.written ended last⟩
    d.lines = ended.map Prod.fst ++ [last] ∧ d.lineCount = ended.length + 1 ∧
      ∀ ended' : List (String × LineBreak), ended'.map Prod.fst = ended.map Prod.fst →
        ∀ (engine : Regex.Engine) (patterns : List String),
          (Provider.mk patterns).symbols engine ⟨uri, Text.written ended' last⟩ =
            (Provider.mk patterns).symbols engine d := by
  intro d
  have hlines : d.lines = ended.map Prod.fst ++ [last] := Text.lines_written h
  refine ⟨hlines, ?_, fun ended' hsame engine patterns => ?_⟩
  · rw [lineCount_eq, hlines, List.length_append, List.length_map, List.length_singleton]
  · rw [← hsame] at h hlines
    have hlines' : (Document.mk uri (Text.written ended' last)).lines = d.lines :=
      (Text.lines_written h).trans hlines.symm
    unfold Provider.symbols
    rw [hlines']

/-- An empty line, breaks of both kinds, and a carriage return inside a line. -/
theorem symbols_of_mixed_line_breaks :
    let ended : List (String × LineBreak) := [("# A", .returnFeed), ("", .feed), ("x\ry", .returnFeed)]
    let d : Document := ⟨"untitled:1", "# A\r\n\nx\ry\r\n# B"⟩
    (∀ line ∈ ended.map Prod.fst ++ ["# B"], Text.IsLine line) ∧ d.text = Text.written ended "# B" ∧
      d.lines = ["# A", "", "x\ry", "# B"] ∧ d.lineCount = 4 ∧
      (Provider.mk ["^# .$"]).symbols Regex.engine d =
        (Provider.mk ["^# .$"]).symbols Regex.engine ⟨"untitled:1", "# A\n\r\nx\ry\n# B"⟩ := by
  intro ended d
  have hlines : ∀ line ∈ ended.map Prod.fst ++ ["# B"], Text.IsLine line := by
    intro line hline
    have hcases : line = "# A" ∨ line = "" ∨ line = "x\ry" ∨ line = "# B" := by
      simpa [ended] using hline
    rcases hcases with rfl | rfl | rfl | rfl <;> exact ⟨by decide, by decide⟩
  obtain ⟨hall, hcount, hsymbols⟩ := symbols_of_line_breaks "untitled:1" hlines
  exact ⟨hlines, rfl, hall, hcount,
    (hsymbols [("# A", .feed), ("", .returnFeed), ("x\ry", .feed)] rfl Regex.engine ["^# .$"]).symm⟩

end Document

end AnchorOutline
