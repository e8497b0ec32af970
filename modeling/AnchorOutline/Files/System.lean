import AnchorOutline.Files.Tree
import AnchorOutline.Interaction
import AnchorOutline.Log

/-!
# What a program asks of the system

Files are read and written, and records are logged. A program that does so is an `Action`; it runs
on the real system or on a `Machine`, which is a directory tree and a log.

* `SystemCall` : the questions;
* `Action` : programs that ask them, with one function for each;
* `Machine.answer` : what a machine answers, and how that changes it.
-/

namespace AnchorOutline

/-- One thing asked of the system. -/
inductive SystemCall where
  | read (path : Path)
  | isPresent (path : Path)
  | createDirs (path : Path)
  | write (path : Path) (bytes : ByteArray)
  | rename (source target : Path)
  | remove (path : Path)
  | log (record : LogRecord)

def SystemCall.Answer : SystemCall → Type
  | read _ => Except FileError ByteArray
  | isPresent _ => Bool
  | createDirs _ | write .. | rename .. | remove _ => Except FileError Unit
  | log _ => Unit

/-- A program that asks the system. -/
abbrev Action := Interaction SystemCall SystemCall.Answer

namespace Action

def read (path : Path) : Action (Except FileError ByteArray) := .ask (.read path) .done

def isPresent (path : Path) : Action Bool := .ask (.isPresent path) .done

def createDirs (path : Path) : Action (Except FileError Unit) := .ask (.createDirs path) .done

def write (path : Path) (bytes : ByteArray) : Action (Except FileError Unit) :=
  .ask (.write path bytes) .done

def rename (source target : Path) : Action (Except FileError Unit) :=
  .ask (.rename source target) .done

def remove (path : Path) : Action (Except FileError Unit) := .ask (.remove path) .done

def log (record : LogRecord) : Action Unit := .ask (.log record) .done

def readText (path : Path) : Action (Except FileError String) := do
  match ← read path with
  | .error e => return .error e
  | .ok bytes =>
    match String.fromUTF8? bytes with
    | some text => return .ok text
    | none => return .error .notText

end Action

/-! ## Machines -/

/-- A directory tree and what was logged, oldest first. -/
structure Machine where
  tree : Tree := {}
  log : List LogRecord := []
  deriving DecidableEq

namespace Machine

/-- Takes over the tree of something that was done, if it could be. -/
def settle (m : Machine) (done : Except FileError Tree) : Except FileError Unit × Machine :=
  match done with
  | .ok t => (.ok (), { m with tree := t })
  | .error e => (.error e, m)

/-- What the machine says to a call, and how the call leaves it. -/
def answer : (call : SystemCall) → Machine → call.Answer × Machine
  | .read p, m => (m.tree.read p, m)
  | .isPresent p, m => (m.tree.isPresent p, m)
  | .createDirs p, m =>
    match m.tree.createDirs p with
    | .ok t => (.ok (), { m with tree := t })
    | .error (e, t) => (.error e, { m with tree := t })
  | .write p bytes, m => m.settle (m.tree.write p bytes)
  | .rename source target, m => m.settle (m.tree.rename source target)
  | .remove p, m => m.settle (m.tree.remove p)
  | .log record, m => ((), { m with log := m.log ++ [record] })

def run {α : Type} (m : Machine) (action : Action α) : α × Machine := action.run answer m

end Machine

end AnchorOutline
