import AnchorOutline.Cli.Run
import AnchorOutline.Log.Filter

/-!
# The program

Carries out on the real system what the rest of the library decides.
-/

namespace AnchorOutline.Program

/-! ## The system -/

def systemReason (e : IO.Error) : FileError :=
  let other (code : UInt32) (details : String) : FileError :=
    match if code.toNat < Nat.pow 2 31 then code.toNat else Nat.pow 2 32 - code.toNat with
    | 2 => .notFound
    | 17 => .alreadyExists
    | 20 => .notDirectory
    | 21 => .isDirectory
    | 36 => .nameTooLong
    | n => .other s!"{details} (os error {n})"
  match e with
  | .noFileOrDirectory _ code details => other code details
  | .alreadyExists _ code details => other code details
  | .inappropriateType _ code details => other code details
  | .invalidArgument _ code details => other code details
  | .permissionDenied _ code details => other code details
  | e => .other (toString e)

def attempt {α : Type} (work : IO α) : IO (Except FileError α) :=
  try return .ok (← work) catch e => return .error (systemReason e)

/-- What the system says to a call. Records that are let through are printed. -/
def answerCall (enables : LogRecord → Bool) : (call : SystemCall) → IO call.Answer
  | .read p => attempt (IO.FS.readBinFile (toString p))
  | .isPresent p => do
    match ← attempt (IO.FS.realPath (toString p)) with
    | .ok _ => return true
    | .error _ => return false
  | .createDirs p => if p.isEmpty then return .ok () else attempt (IO.FS.createDirAll (toString p))
  | .write p bytes => attempt (IO.FS.writeBinFile (toString p) bytes)
  | .rename source target => attempt (IO.FS.rename (toString source) (toString target))
  | .remove p => attempt (IO.FS.removeFile (toString p))
  | .log record => if enables record then IO.eprintln record.line else return ()

def perform {α : Type} (enables : LogRecord → Bool) (action : Action α) : IO α :=
  action.interpret (answerCall enables)

def printText (text : String) : IO (Except String Unit) := do
  let output ← IO.getStdout
  return (← attempt (do output.putStr text; output.flush)).mapError FileError.message

def performPrinting {α : Type} (enables : LogRecord → Bool) (action : ConsoleAction α) : IO α :=
  action.interpret fun
    | .system call => answerCall enables call
    | .print text => printText text

/-! ## Sessions -/

/-- The bytes of the next line, its line feed included. -/
partial def readLineBytes (input : IO.FS.Stream) (begun : List UInt8) : IO (List UInt8) := do
  match (← input.read 1).toList with
  | [] => return begun.reverse
  | b :: _ =>
    if b = Terminal.lineFeed then return (b :: begun).reverse else readLineBytes input (b :: begun)

def readLine (input : IO.FS.Stream) : IO Terminal.Line := do
  try
    let bytes ← readLineBytes input []
    return (Terminal.readLine [] (if bytes.isEmpty then [] else [.bytes bytes])).line
  catch e => return .failed (systemReason e).message

/-- Plays a session from a step on. -/
partial def playFrom {σ : Type} (enables : LogRecord → Bool) (setup : SessionSetup σ) (step : Step σ) :
    IO Ending := do
  match ← printText step.output with
  | .error e => return .failed e
  | .ok () =>
    match step.ending with
    | some ending => return ending
    | none =>
      let line ← readLine (← IO.getStdin)
      playFrom enables setup (← perform enables (step.session.feed setup line))

def playSession (enables : LogRecord → Bool) (config file : String) (ephemeral : Bool) :
    IO (Except Cli.CliError Unit) := do
  match ← perform enables (Cli.openSession config file ephemeral) with
  | .error e => return .error e
  | .ok () =>
    let ending ←
      if ephemeral then playFrom enables ⟨Regex.engine, file, .memory⟩ (Session.start [])
      else playFrom enables ⟨Regex.engine, file, .configFile config⟩ (Session.start ())
    return Cli.ofEnding ending

/-! ## Command lines -/

def carryOut (enables : LogRecord → Bool) (config? : Option String) (command : CliCommand) :
    IO (Except Cli.CliError Unit) :=
  match Cli.task Regex.engine config? command with
  | .program action => performPrinting enables action
  | .session config file ephemeral => playSession enables config file ephemeral

/-- What the environment says, unless that is nothing. -/
def environment? (name : String) : IO (Option String) :=
  return (← IO.getEnv name).filter (· != "")

def runLine (arguments : List String) (line : CommandLine) : IO UInt32 := do
  let invocation : Cli.Invocation :=
    { arguments := arguments, home? := ← environment? "HOME", logFilter := ← IO.getEnv "RUST_LOG" }
  let config? := invocation.config? line
  let filters := LogFilter.filters
  let filter ← perform (fun _ => false) (Cli.chooseFilter filters invocation.logFilter config?)
  let result ← carryOut (filters.enables filter) config? line.command
  IO.eprint (Cli.complaint result)
  return (Cli.exitCode result).toUInt32

end AnchorOutline.Program

open AnchorOutline in
def main (arguments : List String) : IO UInt32 := do
  match CommandLine.parse? arguments with
  | some line => Program.runLine arguments line
  | none =>
    IO.eprint Cli.usage
    return 2
