import AnchorOutline.Active.Controller
import AnchorOutline.Text.Blank

/-!
# Commands of a session

* `SetCommand` : the commands that change or save the active patterns, each with its operation;
* `SessionCommand.parse` : the command that a line gives;
* `describePatterns`, `SetCommand.report` : what a command says in the end.
-/

namespace AnchorOutline

/-! ## Commands on the active set -/

/-- A command that runs an operation on the active patterns. -/
inductive SetCommand where
  | new | add | fix | load | save
  deriving Repr, DecidableEq

namespace SetCommand

/-- The commands in the order in which a session subscribes to them. -/
def all : List SetCommand := [new, add, fix, load, save]

def name : SetCommand → String
  | new => "new"
  | add => "add"
  | fix => "fix"
  | load => "load"
  | save => "save"

def operation : SetCommand → Controller → Operation
  | new => Controller.define
  | add => Controller.add
  | fix => Controller.fix
  | load => Controller.load
  | save => Controller.save

end SetCommand

/-! ## All commands -/

inductive SessionCommand where
  | onSet (command : SetCommand)
  | show
  | list
  | help
  | quit
  | nothing
  | unknown (text : String)
  deriving Repr, DecidableEq

namespace SessionCommand

/-- The command in a line, whatever the blanks around it. -/
def parse (line : String) : SessionCommand :=
  match Text.trim line with
  | "" => nothing
  | "show" => .show
  | "list" => list
  | "help" => help
  | "quit" | "exit" | "q" => quit
  | text =>
    match SetCommand.all.find? (·.name == text) with
    | some command => onSet command
    | none => unknown text

end SessionCommand

/-! ## What is said -/

def helpText : String :=
"Commands:
  new   start a new pattern set from one pattern (empty clears it)
  add   append a pattern
  fix   edit or remove a pattern
  load  load a saved pattern set
  save  save the current patterns under a name
  show  print the outline of the file
  list  print the current patterns
  help  show this help
  quit  end the session"

def describePatterns (patterns : List String) : String :=
  if patterns.isEmpty then "No patterns."
  else "Patterns:" ++ String.join (patterns.map ("\n  " ++ ·))

def reportError (message : String) : String := s!"Error: {message}"

namespace SetCommand

/-- What is said at the end of a command, the active patterns being those after it. -/
def report (command : SetCommand) (current : List String) :
    Except OperationError Outcome → String
  | .ok .applied => if command = save then "Saved." else describePatterns current
  | .ok .cancelled => "Cancelled."
  | .ok .skipped => "Nothing to do."
  | .error e => reportError e.message

end SetCommand

end AnchorOutline
