import AnchorOutline.Terminal.Basic

/-!
# Programs that print

A program that prints asks for that as it asks for anything else, and goes on with the answer: the text
may not fit.

* `ConsoleCall` : what is asked of the system, and printing;
* `ConsoleAction` : programs that ask this;
* `Terminal.run` : runs such a program on a terminal.
-/

namespace AnchorOutline

/-- One thing asked of the system or of the output. -/
inductive ConsoleCall where
  | system (call : SystemCall)
  | print (text : String)

/-- What is said to it. A text that cannot be printed fails with a message. -/
def ConsoleCall.Answer : ConsoleCall → Type
  | system call => call.Answer
  | print _ => Except String Unit

abbrev ConsoleAction := Interaction ConsoleCall ConsoleCall.Answer

namespace ConsoleAction

def print (text : String) : ConsoleAction (Except String Unit) := .ask (.print text) .done

def silent {α : Type} : Action α → ConsoleAction α
  | .done a => .done a
  | .ask call next => .ask (.system call) fun answer => silent (next answer)

/-- Prints lines, one after the other, up to the first that fails. -/
def printLines : List String → ConsoleAction (Except String Unit)
  | [] => return .ok ()
  | line :: rest => do
    match ← print (line ++ "\n") with
    | .error e => return .error e
    | .ok () => printLines rest

end ConsoleAction

namespace Terminal

/-- What a terminal says to a call, and how the call leaves it. -/
def answer : (call : ConsoleCall) → Terminal → call.Answer × Terminal
  | .system call, t =>
    let (answer, machine) := t.machine.answer call
    (answer, { t with machine := machine })
  | .print text, t => t.print text

def run {α : Type} (t : Terminal) (action : ConsoleAction α) : α × Terminal := action.run answer t

end Terminal

end AnchorOutline
