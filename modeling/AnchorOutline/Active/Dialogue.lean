import AnchorOutline.Outline.Document
import AnchorOutline.Sets.ConfigFile

/-!
# Dialogues

An operation on the active pattern set prompts its user, reads and writes saved sets, and tells what
it does. It is written as a `Dialogue`, which leaves open who prompts and where sets are saved.

* `Prompt`, `Reply` : what is shown and what comes back;
* `Note` : what an operation tells;
* `Question` : everything that a dialogue asks.
-/

namespace AnchorOutline

/-! ## Prompts -/

/-- A prompt for a text, or for one out of several options. -/
inductive Prompt where
  | text (placeholder prefill : Option String)
  | choice (options : List String) (placeholder : Option String)
  deriving Repr, DecidableEq

inductive Reply where
  | submitted (answer : String)
  | cancelled
  deriving Repr, DecidableEq

/-- A prompt that could not be shown or answered at all. -/
structure HostFailure where
  message : String
  deriving Repr, DecidableEq

/-! ## Notes -/

inductive Note where
  | registered (id : Nat) (selector : Selector) (patterns : List String)
  | disposed (id : Nat)
  /-- A subscription that was there before any pattern is given up, by its place. -/
  | disposedBaseline (index : Nat)
  | log (record : LogRecord)
  deriving Repr, DecidableEq

/-! ## Questions -/

inductive Question where
  | prompt (p : Prompt)
  | getSets
  | putSets (sets : List PatternSet)
  | note (n : Note)
  /-- Something that should hold where it is asked. Nobody but a test minds when it does not. -/
  | check (holds : Bool)
  deriving Repr, DecidableEq

def Question.Answer : Question → Type
  | prompt _ => Except HostFailure Reply
  | getSets => Except StoreError (List PatternSet)
  | putSets _ => Except StoreError Unit
  | note _ | check _ => Unit

/-- A program that prompts, uses a store and tells what it does. -/
abbrev Dialogue := Interaction Question Question.Answer

namespace Dialogue

def prompt (p : Prompt) : Dialogue (Except HostFailure Reply) := .ask (.prompt p) .done

def getSets : Dialogue (Except StoreError (List PatternSet)) := .ask .getSets .done

def putSets (sets : List PatternSet) : Dialogue (Except StoreError Unit) :=
  .ask (.putSets sets) .done

def note (n : Note) : Dialogue Unit := .ask (.note n) .done

def check (holds : Bool) : Dialogue Unit := .ask (.check holds) .done

def log (level : Level) (target message : String) : Dialogue Unit :=
  note (.log ⟨level, target, message⟩)

end Dialogue

end AnchorOutline
