import AnchorOutline.Active.Dialogue
import AnchorOutline.Text.Blank
import AnchorOutline.Text.Count

/-!
# Prompts on a terminal

A prompt is a line of text without a line break, answered by a line. The line `:q` cancels. A text
is taken as it is; a choice is made by the number or the text of an option, and asked for again
when the answer is neither.

* `Prompt.preamble`, `Prompt.question` : what is printed once, and before every line of answer;
* `Prompt.interpret` : what a line means as an answer;
* `pick` : the option that an answer means.
-/

namespace AnchorOutline

def cancelMark : String := ":q"

/-! ## What is printed -/

namespace Prompt

def preamble : Prompt → String
  | text .. => ""
  | choice options _ =>
    String.join ((options.zipIdx 1).map fun (option, i) => s!"  {i}) {option}\n")

def question : Prompt → String
  | text placeholder prefill =>
    let shown := match prefill with
      | some s => s!" (currently {Text.quote s})"
      | none => ""
    placeholder.getD "Value" ++ shown ++ s!" [{cancelMark} cancels]: "
  | choice _ placeholder =>
    placeholder.getD "Choice" ++ s!" [number or text, {cancelMark} cancels]: "

end Prompt

/-! ## What is answered -/

/-- The option that an answer means: by its number from one on if the answer is a number, and by
its text otherwise. -/
def pick (options : List String) (answer : String) : Option String :=
  match Text.parseCount? answer with
  | some 0 => none
  | some (i + 1) => options[i]?
  | none => options.find? (· == answer)

inductive Interpretation where
  | accepted (reply : Reply)
  /-- The answer is none of the options. -/
  | rejected (answer : String)
  deriving Repr, DecidableEq

namespace Prompt

def interpret (line : String) : Prompt → Interpretation
  | text .. => .accepted (if line = cancelMark then .cancelled else .submitted line)
  | choice options _ =>
    let answer := Text.trim line
    if answer = cancelMark then .accepted .cancelled
    else if answer.isEmpty then .accepted (.submitted "")
    else match pick options answer with
      | some option => .accepted (.submitted option)
      | none => .rejected answer

/-- What is printed about an answer that is none of the options. -/
def rejection (answer : String) : String := s!"Not an option: {answer}\n"

end Prompt

end AnchorOutline
