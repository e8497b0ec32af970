import AnchorOutline.Regex.Fault

/-!
# How a faulty pattern is shown

The pattern is printed with carets below the span of the fault. A pattern of one line is indented
by four; a pattern with line breaks is numbered by line and set between two rules, and a span over
several lines is described in words after it.

* `caretLine` : the carets below one line;
* `Fault.render` : the whole message for a fault;
* `CompileError.message` : the message for any reason.
-/

namespace AnchorOutline.Regex

/-- The lines of a pattern: a carriage return before a line break belongs to the break, and a
final break starts no further line. -/
def patternLines (pattern : List Char) : List String :=
  go pattern []
where
  go : List Char → List Char → List String
    | [], [] => []
    | [], acc => [String.ofList acc.reverse]
    | '\n' :: rest, acc => String.ofList (stripReturn acc).reverse :: go rest []
    | c :: rest, acc => go rest (c :: acc)
  stripReturn : List Char → List Char
    | '\r' :: acc => acc
    | acc => acc

/-- Carets below the columns of the given spans, which are in order. -/
def carets : List Span → Nat → List Char
  | [], _ => []
  | s :: rest, done =>
    let gap := s.start.column - 1 - done
    let width := max 1 (s.stop.column - s.start.column)
    List.replicate gap ' ' ++ List.replicate width '^' ++ carets rest (done + gap + width)

/-- The line of carets for the spans on one line, if there are any. -/
def caretLine (indent : Nat) (spans : List Span) : Option String :=
  if spans.isEmpty then none
  else some (String.ofList (List.replicate indent ' ' ++ carets spans 0))

def padLeft (width : Nat) (s : String) : String :=
  String.ofList (List.replicate (width - s.length) ' ') ++ s

namespace Fault

/-- The spans of a fault in the order of the pattern. -/
def spans (f : Fault) : List Span :=
  match f.earlier with
  | none => [f.span]
  | some e => if Span.le e f.span then [e, f.span] else [f.span, e]

/-- Every line of the pattern behind its label, with carets where a span lies in it. -/
def notated (f : Fault) (lines : List String) (label : Nat → String) (indent : Nat) :
    List String :=
  let marked := f.spans.filter Span.isOneLine
  lines.zipIdx.flatMap fun (line, i) =>
    (label (i + 1) ++ line) :: (caretLine indent (marked.filter (·.start.line == i + 1))).toList

/-- Where a span over several lines begins and ends. -/
def placeNote (s : Span) : String :=
  s!"on line {s.start.line} (column {s.start.column}) " ++
    s!"through line {s.stop.line} (column {s.stop.column - 1})"

def render (pattern : String) (f : Fault) : String :=
  let chars := pattern.toList
  let lines := patternLines chars
  let verdict := "error: " ++ f.cause.message
  let body :=
    if chars.contains '\n' then
      let count := lines.length + if chars.getLast? = some '\n' then 1 else 0
      let width := if count ≤ 1 then 0 else (toString count).length
      let rule := String.ofList (List.replicate 79 '~')
      let label := fun n => if width = 0 then "    " else padLeft width (toString n) ++ ": "
      let indent := if width = 0 then 4 else width + 2
      rule :: f.notated lines label indent ++ [rule] ++
        ((f.spans.filter fun s => !s.isOneLine).map placeNote)
    else f.notated lines (fun _ => "    ") 4
  "\n".intercalate ("regex parse error:" :: body ++ [verdict])

end Fault

namespace CompileError

def message : CompileError → String
  | syntaxFault pattern fault => fault.render pattern
  | tooLarge => s!"Compiled regex exceeds size limit of {sizeLimit} bytes."

end CompileError

end AnchorOutline.Regex
