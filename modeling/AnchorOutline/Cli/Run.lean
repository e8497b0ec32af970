import AnchorOutline.Cli.Arguments
import AnchorOutline.Outline.Report
import AnchorOutline.Session.Play
import AnchorOutline.Terminal.Console

/-!
# Running a command line

* `Cli.chooseFilter` : the filter of the log;
* `Cli.outline`, `Cli.listSets`, `Cli.createConfig`, `Cli.tellVersion` : the commands that print
  something and are done;
* `Cli.openSession`, `Cli.playSession` : sessions;
* `Cli.task` : what there is to do for a command;
* `Cli.run` : a whole run on a machine, with what it prints and how it exits.
-/

namespace AnchorOutline.Cli

/-! ## Failing -/

inductive CliError where
  | outline (reason : OutlineError)
  | store (reason : StoreError)
  | document (reason : UnreadableFile)
  | session (message : String)
  /-- No config file is given, and there is no home directory to look for one. -/
  | noHome
  /-- A line could not be printed. The program breaks off then. -/
  | output (message : String)
  deriving Repr, DecidableEq

namespace CliError

def message : CliError → String
  | outline reason => reason.message
  | store reason => reason.message
  | document reason => reason.message
  | session message => message
  | noHome => "Cannot find home directory; pass --config <PATH> instead"
  | output message => s!"failed printing to stdout: {message}"

def cause? : CliError → Option String
  | outline reason => reason.cause?
  | _ => none

/-- Every line of a text four blanks deeper. -/
def indent (text : String) : String :=
  "\n".intercalate ((text.splitOn "\n").map ("    " ++ ·))

/-- What is printed about an error: its message, and below it the reason behind it. -/
def report (e : CliError) : String :=
  let cause := match e.cause? with
    | some text => "\n\nCaused by:\n" ++ indent text
    | none => ""
  s!"Error: {e.message}" ++ cause ++ "\n"

def exitCode : CliError → Nat
  | output _ => 134
  | _ => 1

end CliError

/-! ## The log -/

variable {Filter : Type}

def defaultFilter : String := "warn"

/-- The text of the filter in the config file, if there is one that can be read. -/
def configuredFilter : Option String → Action (Option String)
  | none => return none
  | some config => do return (← ConfigFile.load config).toOption.bind Config.logFilter

/-- The filter that is asked for if it can be read, or else that of the config file, or else the
standard one. -/
def chooseFilter (filters : LogFilters Filter) (asked config? : Option String) : Action Filter := do
  match asked.bind filters.parse? with
  | some filter => return filter
  | none =>
    let configured ← configuredFilter config?
    return (filters.parse? (configured.getD defaultFilter)).getD (filters.readLoosely defaultFilter)

/-! ## Commands that are done at once -/

def say (lines : List String) : ConsoleAction (Except CliError Unit) := do
  return (← ConsoleAction.printLines lines).mapError .output

def outlineText (engine : Regex.Engine) (config file : String) (patterns : List String)
    (set? : Option String) (json : Bool) : Action (Except OutlineError String) := do
  match ← assemblePatterns (.configFile config) () set? patterns with
  | .error e => return .error e
  | .ok patterns =>
    match ← DocumentFile.read file with
    | .error e => return .error (.unreadable e)
    | .ok document =>
      let message := s!"Outlining {file} with {patterns.length} patterns"
      Action.log ⟨.info, "dynsym::command::outline", message⟩
      match (Provider.mk patterns).symbols engine document with
      | .ok symbols => Action.log (Provider.foundRecord document symbols.length)
      | .error _ => pure ()
      return (renderOutline engine patterns document json).mapError .invalidPattern

/-- Prints the outline of a file, unless it is empty. -/
def outline (engine : Regex.Engine) (config file : String) (patterns : List String)
    (set? : Option String) (json : Bool) : ConsoleAction (Except CliError Unit) := do
  match ← .silent (outlineText engine config file patterns set? json) with
  | .error e => return .error (.outline e)
  | .ok text => say (if text.isEmpty then [] else [text])

/-- The saved sets, each with its patterns below its id. -/
def setsLines (config : String) (sets : List PatternSet) : List String :=
  if sets.isEmpty then [s!"No saved pattern sets in {config}"]
  else sets.flatMap fun s => s!"{s.id}:" :: s.texts.map ("  " ++ ·)

def listSets (config : String) : ConsoleAction (Except CliError Unit) := do
  match ← .silent (ConfigFile.sets config) with
  | .error e => return .error (.store e)
  | .ok sets => say (setsLines config sets)

def createdLines (config : String) : List String :=
  [s!"Created config file at: {config}", "", "Next steps:",
    "   1. Add your own pattern sets under \"definitions\"",
    "   2. Run 'dynsym outline <FILE> --set markdown' to try one",
    "   3. Run 'dynsym session <FILE>' to build sets interactively", ""]

def createConfig (config : String) : ConsoleAction (Except CliError Unit) := do
  match ← .silent (ConfigFile.create config) with
  | .error e => return .error (.store e)
  | .ok () => say (createdLines config)

def tellVersion : ConsoleAction (Except CliError Unit) := say ["dynsym 0.1.0"]

/-! ## Sessions -/

/-- Makes sure that the file of a session can be read, and logs that the session begins. -/
def openSession (config file : String) (ephemeral : Bool) : Action (Except CliError Unit) := do
  match ← DocumentFile.read file with
  | .error e => return .error (.document e)
  | .ok _ =>
    let message :=
      if ephemeral then s!"Starting ephemeral session on {file}"
      else s!"Starting session on {file} (sets in {config})"
    Action.log ⟨.info, Session.logTarget, message⟩
    return .ok ()

def ofEnding : Ending → Except CliError Unit
  | .quit => .ok ()
  | .failed e => .error (.session e)

def playSession (engine : Regex.Engine) (config file : String) (ephemeral : Bool) (t : Terminal) :
    Except CliError Unit × Terminal :=
  match t.perform (openSession config file ephemeral) with
  | (.error e, t) => (.error e, t)
  | (.ok (), t) =>
    if ephemeral then
      let played := Session.playAll ⟨engine, file, .memory⟩ [] t
      (ofEnding played.ending, played.terminal)
    else
      let played := Session.playAll ⟨engine, file, .configFile config⟩ () t
      (ofEnding played.ending, played.terminal)

/-! ## Whole runs -/

/-- What there is to do for a command. -/
inductive Task where
  | program (action : ConsoleAction (Except CliError Unit))
  | session (config file : String) (ephemeral : Bool)

/-- What there is to do for a command. All but one need to know where the config file is. -/
def task (engine : Regex.Engine) (config? : Option String) (command : CliCommand) : Task :=
  match command, config? with
  | .version, _ => .program tellVersion
  | _, none => .program (return .error .noHome)
  | .outline file patterns set? json, some config =>
    .program (outline engine config file patterns set? json)
  | .session file ephemeral, some config => .session config file ephemeral
  | .sets, some config => .program (listSets config)
  | .init, some config => .program (createConfig config)

def carryOut (engine : Regex.Engine) (config? : Option String) (command : CliCommand)
    (t : Terminal) : Except CliError Unit × Terminal :=
  match task engine config? command with
  | .program action => t.run action
  | .session config file ephemeral => playSession engine config file ephemeral t

/-- What a run is given. -/
structure Invocation where
  arguments : List String
  /-- The home directory, where the config file is looked for. -/
  home? : Option String
  /-- The filter of the log that is asked for. -/
  logFilter : Option String := none
  input : List UInt8 := []
  /-- How many bytes can be printed; without a number all can. -/
  room : Option Nat := none
  deriving DecidableEq

/-- Where the config file is: at the path that is given, or else below the home directory. -/
def Invocation.config? (i : Invocation) (line : CommandLine) : Option String :=
  line.config?.or (i.home?.map ConfigFile.defaultPath)

def Invocation.terminal (i : Invocation) (m : Machine) : Terminal :=
  { input := [.bytes i.input], output := { room := i.room }, machine := m }

inductive RunResult where
  /-- The command line cannot be understood, and nothing is done. -/
  | rejected
  | finished (exitCode : Nat) (output errors : String)
  deriving Repr, DecidableEq

/-- The records of a machine's log that a filter lets through, as lines. -/
def logText (filters : LogFilters Filter) (filter : Filter) (m : Machine) : String :=
  String.join ((m.log.filter (filters.enables filter)).map (·.line ++ "\n"))

def exitCode : Except CliError Unit → Nat
  | .ok () => 0
  | .error e => e.exitCode

def complaint : Except CliError Unit → String
  | .ok () => ""
  | .error e => e.report

/-- What comes out of a command that succeeded or failed on a terminal. -/
def finish (filters : LogFilters Filter) (filter : Filter) (result : Except CliError Unit)
    (t : Terminal) : RunResult × Machine :=
  let errors := logText filters filter t.machine ++ complaint result
  (.finished (exitCode result) t.output.text errors, t.machine)

def run (engine : Regex.Engine) (filters : LogFilters Filter) (i : Invocation) (m : Machine) :
    RunResult × Machine :=
  match CommandLine.parse? i.arguments with
  | none => (.rejected, m)
  | some line =>
    let (filter, m) := m.run (chooseFilter filters i.logFilter (i.config? line))
    let (result, t) := carryOut engine (i.config? line) line.command (i.terminal m)
    finish filters filter result t

end AnchorOutline.Cli
