import AnchorOutline.Active.Dialogue
import AnchorOutline.Outline.Registry

/-!
# The active pattern set

One list of patterns is active at a time. While it is not empty, one provider with just these
patterns is registered. Every operation asks all its questions before it changes anything, so one
that is cancelled or fails changes nothing.

* `Controller.define`, `add`, `fix` : a new list, one more pattern, another pattern or one less;
* `Controller.load`, `save` : from and to the saved sets;
* `Controller.shutdown` : the end, which gives up all subscriptions.
-/

namespace AnchorOutline

/-! ## Subscriptions -/

/-- Something that has to be given up in the end. -/
inductive Subscription where
  /-- One that was there before any pattern, by its place. -/
  | baseline (index : Nat)
  /-- A registration of a provider, by its number. -/
  | registration (id : Nat)
  deriving Repr, DecidableEq

namespace Subscription

def dispose (registry : Registry) : Subscription → Dialogue Registry
  | baseline index => do
    Dialogue.note (.disposedBaseline index)
    return registry
  | registration id => do
    Dialogue.note (.disposed id)
    Dialogue.log .debug Registry.logTarget s!"Disposed provider {id}"
    return registry.dispose id

end Subscription

/-- The active patterns and all subscriptions, the oldest first. Those that were there at the
beginning are counted; the one above them, if any, is the live registration. -/
structure ActiveSet where
  baseline : Nat
  current : List String
  subscriptions : List Subscription
  deriving Repr, DecidableEq

namespace ActiveSet

def logTarget : String := "dynsym_core::session"

/-- No patterns, and the given number of subscriptions to begin with. -/
def initial (baseline : Nat) : ActiveSet :=
  ⟨baseline, [], (List.range baseline).map .baseline⟩

def hasLive (s : ActiveSet) : Bool := s.baseline < s.subscriptions.length

/-- Takes in the live registration. There should be none yet. -/
def install (s : ActiveSet) (live : Subscription) : Dialogue ActiveSet := do
  Dialogue.check (!s.hasLive)
  return { s with subscriptions := s.subscriptions ++ [live] }

/-- What is shown of a set to those who look for faults. -/
def describe (s : ActiveSet) : String :=
  "SessionState \x7b baseline: " ++ toString s.baseline ++ ", current: " ++
    Text.quoteList s.current ++ ", subscriptions: " ++ toString s.subscriptions.length ++ " \x7d"

def disposeAll (registry : Registry) (subscriptions : List Subscription) : Dialogue Registry :=
  subscriptions.reverse.foldlM Subscription.dispose registry

def shutdown (s : ActiveSet) (registry : Registry) : Dialogue Registry := do
  let registry ← disposeAll registry s.subscriptions
  Dialogue.log .info logTarget "Session shut down"
  return registry

end ActiveSet

/-! ## Outcomes -/

inductive Outcome where
  | applied
  | cancelled
  /-- There was nothing to do, and no prompt was shown. -/
  | skipped
  deriving Repr, DecidableEq

inductive OperationError where
  | store (reason : StoreError)
  | host (reason : HostFailure)
  deriving Repr, DecidableEq

namespace OperationError

def message : OperationError → String
  | store reason => s!"Pattern store unavailable: {reason.message}"
  | host reason => s!"Host UI error: {reason.message}"

end OperationError

/-! ## The controller -/

/-- The active set, the table that its provider is registered in, and the documents it is for. -/
structure Controller where
  set : ActiveSet
  registry : Registry := {}
  selector : Selector := .filesAndUntitled
  deriving Repr, DecidableEq

/-- An operation on a controller: what it did or why it failed, and the controller that it leaves
in either case. -/
abbrev Operation := Dialogue (Except OperationError Outcome × Controller)

namespace Controller

def logTarget : String := "dynsym_core::controller"

def remark (level : Level) (message : String) : Dialogue Unit :=
  Dialogue.log level logTarget message

/-- The controller with a number of subscriptions to begin with. -/
def initial (baseline : Nat) : Controller := { set := .initial baseline }

def current (c : Controller) : List String := c.set.current

/-! ### Questions -/

/-- Prompts for a text; nothing when that is cancelled. -/
def askText (placeholder : String) (prefill : Option String) :
    Dialogue (Except OperationError (Option String)) := do
  match ← Dialogue.prompt (.text (some placeholder) prefill) with
  | .ok (.submitted answer) => return .ok (some answer)
  | .ok .cancelled => return .ok none
  | .error e => return .error (.host e)

/-- Prompts for one of several options; an empty answer counts as cancelled. -/
def askChoice (options : List String) (placeholder : String) :
    Dialogue (Except OperationError (Option String)) := do
  match ← Dialogue.prompt (.choice options (some placeholder)) with
  | .ok (.submitted answer) => return .ok (if answer.isEmpty then none else some answer)
  | .ok .cancelled => return .ok none
  | .error e => return .error (.host e)

def askSets : Dialogue (Except OperationError (List PatternSet)) := do
  return (← Dialogue.getSets).mapError .store

def writeSets (sets : List PatternSet) : Dialogue (Except OperationError Unit) := do
  return (← Dialogue.putSets sets).mapError .store

/-! ### The live registration -/

/-- Gives up the live registration, if there is one. -/
def releaseLive (c : Controller) : Dialogue Controller :=
  if c.set.hasLive then
    match c.set.subscriptions.getLast? with
    | none => return c
    | some live => do
      let registry ← live.dispose c.registry
      Dialogue.log .info ActiveSet.logTarget "Disposed live symbol provider"
      let subscriptions := c.set.subscriptions.dropLast
      return { c with set := { c.set with subscriptions := subscriptions }, registry := registry }
  else return c

def registerCurrent (c : Controller) : Dialogue Controller := do
  let (id, registry) := c.registry.register c.selector ⟨c.current⟩
  Dialogue.note (.registered id c.selector c.current)
  Dialogue.log .debug Registry.logTarget
    s!"Registering provider {id} for {Text.quoteList c.selector.schemes}"
  remark .info s!"Registered symbol provider for {c.current.length} patterns"
  return { c with set := ← c.set.install (.registration id), registry := registry }

/-- Makes patterns the active ones, and their provider the live one. -/
def activate (c : Controller) (patterns : List String) : Dialogue Controller := do
  let c ← releaseLive { c with set := { c.set with current := patterns } }
  if patterns.isEmpty then
    remark .info "Pattern set cleared, no provider registered"
    return c
  else registerCurrent c

/-! ### Operations -/

def leave (c : Controller) (outcome : Outcome) (reason : String) : Operation := do
  remark .debug reason
  return (.ok outcome, c)

def abandon (c : Controller) (e : OperationError) : Operation := return (.error e, c)

/-- Ends an operation by making patterns the active ones. -/
def apply (c : Controller) (patterns : List String) : Operation := do
  return (.ok .applied, ← c.activate patterns)

/-- Starts anew from a single pattern, or from none when the answer is empty. -/
def define (c : Controller) : Operation := do
  match ← askText "Pattern for a new set" none with
  | .error e => c.abandon e
  | .ok none => c.leave .cancelled "define cancelled"
  | .ok (some pattern) => c.apply (if pattern.isEmpty then [] else [pattern])

/-- Adds a pattern at the end. An empty answer counts as cancelled. -/
def add (c : Controller) : Operation := do
  match ← askText "Pattern to add" none with
  | .error e => c.abandon e
  | .ok answer =>
    match answer.filter (!·.isEmpty) with
    | none => c.leave .cancelled "add cancelled"
    | some pattern => c.apply (c.current ++ [pattern])

/-- Puts a replacement in the place of the first pattern that equals the target, or takes that one
away when the replacement is empty. -/
def amend (c : Controller) (target replacement : String) : Operation := do
  if replacement.isEmpty then
    remark .info s!"Removed pattern {Text.quote target}"
    c.apply (c.current.erase target)
  else
    remark .info s!"Replaced pattern {Text.quote target} with {Text.quote replacement}"
    c.apply (c.current.replace target replacement)

def fix (c : Controller) : Operation := do
  if c.current.isEmpty then c.leave .skipped "fix skipped: no current patterns"
  else
    match ← askChoice c.current "Pattern to fix" with
    | .error e => c.abandon e
    | .ok chosen =>
      match chosen.filter c.current.contains with
      | none => c.leave .cancelled "fix cancelled at selection"
      | some target =>
        match ← askText "Replacement (empty removes)" (some target) with
        | .error e => c.abandon e
        | .ok none => c.leave .cancelled "fix cancelled at replacement"
        | .ok (some replacement) => c.amend target replacement

def load (c : Controller) : Operation := do
  match ← askSets with
  | .error e => c.abandon e
  | .ok sets =>
    if sets.isEmpty then c.leave .skipped "load skipped: no saved sets"
    else
      match ← askChoice (sets.map PatternSet.id) "Pattern set to load" with
      | .error e => c.abandon e
      | .ok chosen =>
        match chosen.bind (PatternSet.find? sets) with
        | none => c.leave .cancelled "load cancelled"
        | some set =>
          remark .info s!"Loaded pattern set {Text.quote set.id} ({set.patterns.length} patterns)"
          c.apply set.texts

/-- Puts the active patterns under an id into the store, among the sets that it has by then. -/
def store (c : Controller) (id : String) : Operation := do
  match ← askSets with
  | .error e => c.abandon e
  | .ok sets =>
    match ← writeSets (PatternSet.upsert sets (.ofPatterns id c.current)) with
    | .error e => c.abandon e
    | .ok () =>
      let how := if PatternSet.isKnown sets id then "replaced" else "new"
      remark .info s!"Saved pattern set {Text.quote id} ({how})"
      return (.ok .applied, c)

/-- Saves the active patterns under an id. What is saved besides is read only when the id is
known. -/
def save (c : Controller) : Operation := do
  if c.current.isEmpty then c.leave .skipped "save skipped: no current patterns"
  else
    match ← askText "Name for this pattern set" none with
    | .error e => c.abandon e
    | .ok answer =>
      match answer.filter (!·.isEmpty) with
      | none => c.leave .cancelled "save cancelled"
      | some id => c.store id

/-- Gives up all subscriptions. Only the table is left. -/
def shutdown (c : Controller) : Dialogue Registry := c.set.shutdown c.registry

end Controller

end AnchorOutline
