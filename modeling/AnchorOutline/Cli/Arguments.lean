/-!
# Command lines

A command line names a command and gives it options and files. An option that takes a value has it
behind it, in the same argument or in the next; two dashes end the options.

* `CommandLine` : what can be asked for;
* `CommandLine.parse?` : what arguments ask for, or nothing where they are rejected;
* `Cli.usage` : what is said then.
-/

namespace AnchorOutline

/-! ## What can be asked for -/

inductive CliCommand where
  | outline (file : String) (patterns : List String) (set? : Option String) (json : Bool)
  | session (file : String) (ephemeral : Bool)
  | sets
  | init
  | version
  deriving Repr, DecidableEq

/-- A command, and the config file if one was given. -/
structure CommandLine where
  config? : Option String
  command : CliCommand
  deriving Repr, DecidableEq

namespace Cli

/-! ## Options -/

inductive OptionName where
  | config | pattern | set | json | ephemeral
  deriving Repr, DecidableEq

namespace OptionName

def long : OptionName → String
  | config => "config"
  | pattern => "pattern"
  | set => "set"
  | json => "json"
  | ephemeral => "ephemeral"

def short? : OptionName → Option Char
  | pattern => some 'p'
  | set => some 's'
  | config | json | ephemeral => none

def takesValue : OptionName → Bool
  | config | pattern | set => true
  | json | ephemeral => false

end OptionName

/-- What an argument is by its form. -/
inductive Argument where
  | plain (value : String)
  | flag (name : OptionName)
  | valued (name : OptionName) (value : String)
  /-- An option whose value is the next argument. -/
  | awaiting (name : OptionName)
  | endOfOptions
  | rejected
  deriving Repr, DecidableEq

def readLong (allowed : List OptionName) (cs : List Char) : Argument :=
  match allowed.find? (·.long.toList == cs.takeWhile (· != '=')) with
  | none => .rejected
  | some name =>
    match cs.dropWhile (· != '='), name.takesValue with
    | [], true => .awaiting name
    | [], false => .flag name
    | _ :: value, true => .valued name (String.ofList value)
    | _ :: _, false => .rejected

def readShort (allowed : List OptionName) (letter : Char) (rest : List Char) : Argument :=
  match allowed.find? (·.short? == some letter) with
  | none => .rejected
  | some name =>
    match rest with
    | [] => .awaiting name
    | '=' :: value => .valued name (String.ofList value)
    | value => .valued name (String.ofList value)

/-- What an argument is, by the options that are allowed. A single dash is a plain one. -/
def Argument.read (allowed : List OptionName) (argument : String) : Argument :=
  match argument.toList with
  | ['-', '-'] => .endOfOptions
  | '-' :: '-' :: cs => readLong allowed cs
  | '-' :: c :: cs => readShort allowed c cs
  | _ => .plain argument

/-- Whether an argument may be the value of the option before it. -/
def isPlainValue (argument : String) : Bool :=
  match argument.toList with
  | '-' :: _ :: _ => false
  | _ => true

/-! ## Arguments in order -/

/-- The options with their values, and the plain arguments, each in order. -/
structure Scanned where
  options : List (OptionName × String) := []
  plain : List String := []
  deriving Repr, DecidableEq

namespace Scanned

def addOption (name : OptionName) (value : String) (s : Scanned) : Scanned :=
  { s with options := (name, value) :: s.options }

def addPlain (value : String) (s : Scanned) : Scanned := { s with plain := value :: s.plain }

def values (s : Scanned) (name : OptionName) : List String :=
  (s.options.filter (·.1 == name)).map (·.2)

/-- The value of an option that may be given once, and nothing at all where it was given more than
once. -/
def single? (s : Scanned) (name : OptionName) : Option (Option String) :=
  match s.values name with
  | [] => some none
  | [value] => some (some value)
  | _ => none

/-- Whether a flag was given, and nothing at all where it was given more than once. -/
def flag? (s : Scanned) (name : OptionName) : Option Bool :=
  (s.single? name).map Option.isSome

end Scanned

def scan (allowed : List OptionName) : List String → Option Scanned
  | [] => some {}
  | argument :: rest =>
    match Argument.read allowed argument with
    | .plain value => (scan allowed rest).map (·.addPlain value)
    | .flag name => (scan allowed rest).map (·.addOption name "")
    | .valued name value => (scan allowed rest).map (·.addOption name value)
    | .endOfOptions => some { plain := rest }
    | .rejected => none
    | .awaiting name =>
      match rest with
      | [] => none
      | value :: rest =>
        if isPlainValue value then (scan allowed rest).map (·.addOption name value) else none

/-- Reads options up to the name of the command: gives the config file, the name, and what
follows. -/
def scanCommand (config? : Option String) :
    List String → Option (Option String × String × List String)
  | [] => none
  | argument :: rest =>
    match Argument.read [.config] argument with
    | .plain name => some (config?, name, rest)
    | .valued .config value =>
      if config?.isSome then none else scanCommand (some value) rest
    | .awaiting .config =>
      match rest with
      | [] => none
      | value :: rest =>
        if config?.isSome || !isPlainValue value then none else scanCommand (some value) rest
    | _ => none

end Cli

/-! ## Whole command lines -/

/-- What is said about a command line that is rejected. -/
def Cli.usage : String :=
"Usage: dynsym [--config <PATH>] <COMMAND>

Commands:
  outline <FILE> [-p <PATTERN>]... [-s <SET>] [--json]
  session <FILE> [--ephemeral]
  sets
  init
  version
"

namespace CliCommand

open Cli

def options? (name : String) : Option (List OptionName) :=
  match name with
  | "outline" => some [.config, .pattern, .set, .json]
  | "session" => some [.config, .ephemeral]
  | "sets" | "init" | "version" => some [.config]
  | _ => none

/-- The command of a name with what was given to it. A file has to be named. -/
def ofScanned? (name : String) (s : Scanned) : Option CliCommand := do
  match name, s.plain with
  | "outline", [file] =>
    if file.isEmpty then none
    return outline file (s.values .pattern) (← s.single? .set) (← s.flag? .json)
  | "session", [file] =>
    if file.isEmpty then none
    return session file (← s.flag? .ephemeral)
  | "sets", [] => return sets
  | "init", [] => return init
  | "version", [] => return version
  | _, _ => none

end CliCommand

namespace CommandLine

open Cli

/-- What arguments ask for. The config file given behind the command counts before one given in
front of it, and neither may be empty. -/
def parse? (arguments : List String) : Option CommandLine := do
  let (before?, name, rest) ← scanCommand none arguments
  let scanned ← scan (← CliCommand.options? name) rest
  let behind? ← scanned.single? .config
  if before? = some "" || behind? = some "" then none
  return ⟨behind?.or before?, ← CliCommand.ofScanned? name scanned⟩

end CommandLine

end AnchorOutline
