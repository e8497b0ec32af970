import AnchorOutline.Outline.DocumentFile
import AnchorOutline.Outline.Listing
import AnchorOutline.Sets.Store
import AnchorOutline.Session.Command
import AnchorOutline.Terminal.Basic

/-!
# Sessions

A session edits the active patterns by commands and shows what they find in one file. It waits for
a line, which is either a command or the answer to a prompt of the command that is going on; each
line takes it one step further.

* `Session` : where a session stands;
* `Session.start`, `Session.feed` : the first step, and the step for a line;
* `Step` : what is printed, and whether the session goes on.
-/

namespace AnchorOutline

/-! ## Where a session stands -/

/-- What stays the same throughout a session. -/
structure SessionSetup (σ : Type) where
  engine : Regex.Engine
  file : String
  store : SetStore σ

inductive Phase where
  | command
  /-- An answer to a prompt of a command, whose dialogue goes on with it. -/
  | prompt (command : SetCommand) (p : Prompt) (next : Except HostFailure Reply → Operation)

/-- A session between two lines. -/
structure Session (σ : Type) where
  controller : Controller
  store : σ
  phase : Phase := .command

inductive Ending where
  | quit
  | failed (message : String)
  deriving Repr, DecidableEq

/-- One step: what is printed, where the session stands then, and how it ends if it does. -/
structure Step (σ : Type) where
  output : String
  session : Session σ
  ending : Option Ending := none

namespace Session

variable {σ : Type}

def logTarget : String := "dynsym::command::session"

/-! ## Dialogues up to a prompt -/

/-- What a note means in a session: the subscriptions there at the beginning are the commands. -/
def takeNote : Note → Action Unit
  | .log record => Action.log record
  | .disposedBaseline index =>
    match SetCommand.all[index]? with
    | some command => Action.log ⟨.debug, logTarget, s!"Unregistered command {command.name}"⟩
    | none => return ()
  | .registered .. | .disposed _ => return ()

/-- How far a dialogue comes without an answer to a prompt. -/
inductive Progress (σ α : Type) where
  | finished (result : α) (store : σ)
  | waiting (p : Prompt) (next : Except HostFailure Reply → Dialogue α) (store : σ)

/-- Goes on with a dialogue up to its end or to a prompt. -/
def advance {α : Type} (store : SetStore σ) : Dialogue α → σ → Action (Progress σ α)
  | .done result, s => return .finished result s
  | .ask (.prompt p) next, s => return .waiting p next s
  | .ask .getSets next, s => do
    let (sets, s) ← store.get s
    advance store (next sets) s
  | .ask (.putSets sets) next, s => do
    let (result, s) ← store.put sets s
    advance store (next result) s
  | .ask (.note n) next, s => do
    takeNote n
    advance store (next ()) s
  | .ask (.check _) next, s => advance store (next ()) s

/-! ## Steps -/

/-- A step that prints something and then waits for a command. -/
def prompted (s : Session σ) (printed : String) : Step σ :=
  { output := printed ++ Terminal.commandPrompt, session := { s with phase := .command } }

/-- A step that says something and then waits for a command. -/
def said (s : Session σ) (message : String) : Step σ := s.prompted (message ++ "\n")

def proceed (setup : SessionSetup σ) (s : Session σ) (command : SetCommand)
    (operation : Operation) : Action (Step σ) := do
  match ← advance setup.store operation s.store with
  | .waiting p next store =>
    return { output := p.preamble ++ p.question,
             session := { s with store := store, phase := .prompt command p next } }
  | .finished (result, controller) store =>
    let s := { s with controller := controller, store := store }
    return s.said (command.report controller.current result)

/-- The lines that show what the active patterns find in the file. -/
def showLines (setup : SessionSetup σ) (s : Session σ) : Action (List String) := do
  match ← DocumentFile.read setup.file with
  | .error e => return [reportError e.message]
  | .ok document =>
    for record in s.controller.registry.tryProvideLog setup.engine document do
      Action.log record
    match s.controller.registry.tryProvide setup.engine document with
    | .error e => return [reportError e.message]
    | .ok [] => return ["(no symbols)"]
    | .ok symbols => return symbols.map SymbolInformation.line

/-- Ends a session and gives up its subscriptions. -/
def close (setup : SessionSetup σ) (s : Session σ) : Action (Step σ) := do
  let closed : Step σ := { output := "", session := s, ending := some .quit }
  match ← advance setup.store s.controller.shutdown s.store with
  | .finished registry store =>
    let controller := { s.controller with registry := registry }
    return { closed with session := { s with controller := controller, store := store } }
  | .waiting .. => return closed

def obey (setup : SessionSetup σ) (s : Session σ) : SessionCommand → Action (Step σ)
  | .onSet command => proceed setup s command (command.operation s.controller)
  | .show => do return s.prompted (String.join ((← showLines setup s).map (· ++ "\n")))
  | .list => return s.said (describePatterns s.controller.current)
  | .help => return s.said helpText
  | .quit => close setup s
  | .nothing => return s.prompted ""
  | .unknown text => return s.said s!"Unknown command: {text}. Type 'help'."

def feed (setup : SessionSetup σ) (s : Session σ) (line : Terminal.Line) : Action (Step σ) :=
  match s.phase, line with
  | .command, .text line => obey setup s (SessionCommand.parse line)
  | .command, .over => close setup s
  | .command, .failed e => return { output := "", session := s, ending := some (.failed e) }
  | .prompt command _ next, .over => proceed setup s command (next (.ok .cancelled))
  | .prompt command _ next, .failed e => proceed setup s command (next (.error ⟨e⟩))
  | .prompt command p next, .text line =>
    match p.interpret line with
    | .accepted reply => proceed setup s command (next (.ok reply))
    | .rejected answer => return { output := Prompt.rejection answer ++ p.question, session := s }

/-- The first step: the help, and the first prompt for a command. -/
def start (store : σ) : Step σ :=
  let controller := Controller.initial SetCommand.all.length
  said { controller := controller, store := store } helpText

end Session

end AnchorOutline
