import AnchorOutline.Terminal.Input
import AnchorOutline.Terminal.Output
import AnchorOutline.Terminal.Prompting

/-!
# Terminals

A terminal is input that arrives and output that may be closed. Others may change files while a line
is awaited, so the files are at hand.

* `Terminal.say` : prints a line;
* `Terminal.command` : prompts for a command and reads it;
* `Terminal.ask` : shows a prompt until it is answered or cancelled.
-/

namespace AnchorOutline

/-- Input, output, and the machine whose files others may change. -/
structure Terminal where
  input : List Terminal.Arrival
  output : Terminal.Output := {}
  machine : Machine := {}

namespace Terminal

def commandPrompt : String := "> "

def print (text : String) (t : Terminal) : Except String Unit × Terminal :=
  let (fits, output) := t.output.write text
  (if fits then .ok () else .error outputClosed, { t with output := output })

/-- Reads a line, others changing files meanwhile. -/
def nextLine (t : Terminal) : Line × Terminal :=
  let r := readLine [] t.input
  let tree := r.changes.foldl Change.apply t.machine.tree
  (r.line, { t with input := r.rest, machine := { t.machine with tree := tree } })

def perform {α : Type} (action : Action α) (t : Terminal) : α × Terminal :=
  let (result, machine) := t.machine.run action
  (result, { t with machine := machine })

def say (message : String) (t : Terminal) : Except String Unit × Terminal :=
  t.print (message ++ "\n")

/-- Prompts for a command and reads it without the blanks around it; nothing at the end. -/
def command (t : Terminal) : Except String (Option String) × Terminal :=
  match t.print commandPrompt with
  | (.error e, t) => (.error e, t)
  | (.ok (), t) =>
    match t.nextLine with
    | (.text s, t) => (.ok (some (Text.trim s)), t)
    | (.failed e, t) => (.error e, t)
    | (.over, t) => (.ok none, t)

theorem input_print (text : String) (t : Terminal) : (t.print text).2.input = t.input := rfl

theorem weight_nextLine_lt {t : Terminal} (h : t.nextLine.1 ≠ .over) :
    weight t.nextLine.2.input < weight t.input := weight_readLine_lt h

/-- Prints a text that asks for an answer, reads the answer, and asks again while it is rejected. -/
def askFrom (p : Prompt) (shown : String) (t : Terminal) : Except String Reply × Terminal :=
  match _hp : t.print shown with
  | (.error e, t) => (.error e, t)
  | (.ok (), t') =>
    match _hl : t'.nextLine with
    | (.failed e, t'') => (.error e, t'')
    | (.over, t'') => (.ok .cancelled, t'')
    | (.text line, t'') =>
      match p.interpret line with
      | .accepted reply => (.ok reply, t'')
      | .rejected answer => askFrom p (Prompt.rejection answer ++ p.question) t''
termination_by weight t.input
decreasing_by
  have hin : t'.input = t.input := by
    have := input_print shown t
    rwa [_hp] at this
  have hlt := weight_nextLine_lt (t := t') (by rw [_hl]; simp)
  rwa [_hl, hin] at hlt

/-- Shows a prompt until it is answered or cancelled. -/
def ask (p : Prompt) (t : Terminal) : Except String Reply × Terminal :=
  t.askFrom p (p.preamble ++ p.question)

end Terminal

end AnchorOutline
