import AnchorOutline.Active.Controller
import AnchorOutline.Sets.Store

/-!
# Running dialogues

A dialogue runs against someone who answers prompts and a store that keeps sets. What it asks and
tells is recorded in order.

* `Surroundings` : who answers, and which store;
* `Surroundings.scripted` : answers from a list, one for each prompt;
* `Surroundings.run` : runs a dialogue, from a `Scene` to the one it leaves.
-/

namespace AnchorOutline

/-- Who answers prompts, with states in `η`, and a store with states in `σ`. -/
structure Surroundings (η σ : Type) where
  reply : Prompt → η → Except HostFailure Reply × η
  store : SetStore σ

/-- What a dialogue did, as others see it. -/
inductive Event where
  | prompted (p : Prompt)
  /-- The saved sets were replaced; attempts that fail are no events. -/
  | saved (sets : List PatternSet)
  | noted (n : Note)
  | checked (holds : Bool)
  deriving Repr, DecidableEq

/-- The state of all that a dialogue runs against, and what it did so far. -/
structure Scene (η σ : Type) where
  host : η
  store : σ
  machine : Machine := {}
  events : List Event := []

namespace Scene

variable {η σ : Type}

def add (s : Scene η σ) (e : Event) : Scene η σ := { s with events := s.events ++ [e] }

def prompts (s : Scene η σ) : List Prompt :=
  s.events.filterMap fun
    | .prompted p => some p
    | _ => none

def notes (s : Scene η σ) : List Note :=
  s.events.filterMap fun
    | .noted n => some n
    | _ => none

end Scene

namespace Surroundings

variable {η σ α : Type}

/-- One answer for each prompt, in order; when none is left the prompt fails. -/
def nextAnswer (_ : Prompt) : List (Except HostFailure Reply) →
    Except HostFailure Reply × List (Except HostFailure Reply)
  | [] => (.error ⟨"unexpected prompt"⟩, [])
  | answer :: rest => (answer, rest)

def scripted (store : SetStore σ) : Surroundings (List (Except HostFailure Reply)) σ :=
  ⟨nextAnswer, store⟩

/-- The answer to a question, and how it changes the scene. -/
def answer (w : Surroundings η σ) : (q : Question) → Scene η σ → q.Answer × Scene η σ
  | .prompt p, s =>
    let (reply, host) := w.reply p s.host
    (reply, { s.add (.prompted p) with host := host })
  | .getSets, s =>
    let ((sets, store), machine) := s.machine.run (w.store.get s.store)
    (sets, { s with store := store, machine := machine })
  | .putSets sets, s =>
    let ((result, store), machine) := s.machine.run (w.store.put sets s.store)
    let s := { s with store := store, machine := machine }
    (result, if result.isOk then s.add (.saved sets) else s)
  | .note n, s =>
    let s := s.add (.noted n)
    match n with
    | .log record => ((), { s with machine := (s.machine.answer (.log record)).2 })
    | _ => ((), s)
  | .check holds, s => ((), s.add (.checked holds))

def run (w : Surroundings η σ) (d : Dialogue α) (s : Scene η σ) : α × Scene η σ :=
  Interaction.run w.answer d s

def operate (w : Surroundings η σ) (operation : Controller → Operation) (c : Controller)
    (s : Scene η σ) : Except OperationError Outcome × Controller × Scene η σ :=
  let ((result, c), s) := w.run (operation c) s
  (result, c, s)

end Surroundings

end AnchorOutline
