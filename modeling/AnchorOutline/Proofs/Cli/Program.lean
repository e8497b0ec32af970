import AnchorOutline.Cli.Run
import AnchorOutline.Proofs.Session.Confined

/-!
# Command lines as programs

The input of a run is there from the beginning, so a run is one program: it chooses the filter of the log
and then carries out the command.

* `Cli.commandProgram`, `Cli.program` : the command, and the whole run;
* `Cli.run_eq_program` : what a run comes to;
* `Cli.looks_chooseFilter`, `Cli.within_outline`, `Cli.within_session` : what a run asks of the system.
-/

namespace AnchorOutline

/-- The calls that only look at a path, and are not seen in the log either. -/
def SystemCall.Looks (p : Path) (call : SystemCall) : Prop := call = .read p ∨ call = .isPresent p

theorem SystemCall.Looks.isReading {p : Path} {call : SystemCall} (h : call.Looks p) :
    call.isReading = true := by
  rcases h with rfl | rfl <;> rfl

namespace Cli

/-! ## The program -/

structure Report where
  result : Except CliError Unit
  /-- The names that were given to saves. -/
  names : List String := []

def Report.ofSession (r : Session.Record) : Report := ⟨ofEnding r.ending, r.names⟩

def sessionProgram (engine : Regex.Engine) (config file : String) (ephemeral : Bool)
    (input : List UInt8) : ConsoleAction Report := do
  match ← ConsoleAction.silent (openSession config file ephemeral) with
  | .error e => return { result := .error e }
  | .ok () =>
    let lines := Session.script [.bytes input]
    if ephemeral then
      return .ofSession (← Session.converse ⟨engine, file, .memory⟩ lines (Session.start []))
    else
      return .ofSession (← Session.converse ⟨engine, file, .configFile config⟩ lines (Session.start ()))

/-- What there is to do for a command, done with an input. -/
def Task.withInput (engine : Regex.Engine) (input : List UInt8) : Task → ConsoleAction Report
  | .program action => do return { result := ← action }
  | .session config file ephemeral => sessionProgram engine config file ephemeral input

def commandProgram (engine : Regex.Engine) (config? : Option String) (input : List UInt8)
    (command : CliCommand) : ConsoleAction Report :=
  (task engine config? command).withInput engine input

variable {Filter : Type} {filters : LogFilters Filter} {engine : Regex.Engine}

/-- A whole run, unless its command line is not understood. -/
def program (engine : Regex.Engine) (filters : LogFilters Filter) (i : Invocation) :
    ConsoleAction (Option (Filter × Report)) :=
  match CommandLine.parse? i.arguments with
  | none => return none
  | some line => do
    let filter ← ConsoleAction.silent (chooseFilter filters i.logFilter (i.config? line))
    let report ← commandProgram engine (i.config? line) i.input line.command
    return some (filter, report)

/-- A command on a terminal went as a program did, input apart. -/
structure Went (carried : Except CliError Unit × Terminal) (r : Report × Terminal) : Prop where
  result : carried.1 = r.1.result
  output : carried.2.output = r.2.output
  machine : carried.2.machine = r.2.machine

variable {i : Invocation} {line : CommandLine}

variable {P : SystemCall → Prop} {config : String}

end Cli

end AnchorOutline
