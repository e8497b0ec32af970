import AnchorOutline.Outline.Provider

/-!
# The table of providers

Providers are registered for selectors and answer, in the order of registration, for the documents
that their selector matches. A registration is known by a number that is never used again.

* `Registry.register`, `Registry.dispose` : adding and removing an entry;
* `Registry.provide` : the symbols of all matching providers, refused patterns giving none;
* `Registry.tryProvide` : the same, failing at the first provider with a refused pattern;
* `HandledRegistry` : a table together with the handles that were given out for it;
* `RegistryClones` : references to tables, where a clone is one more reference.
-/

namespace AnchorOutline

structure Registration where
  id : Nat
  selector : Selector
  provider : Provider
  deriving Repr, DecidableEq

/-- The live registrations in order, and the number of the next one. -/
structure Registry where
  nextId : Nat := 0
  entries : List Registration := []
  deriving Repr, DecidableEq

namespace Registry

def logTarget : String := "dynsym_core::registry"

/-- Adds a registration at the end and gives back its number. -/
def register (r : Registry) (selector : Selector) (provider : Provider) : Nat × Registry :=
  (r.nextId, ⟨r.nextId + 1, r.entries ++ [⟨r.nextId, selector, provider⟩]⟩)

def dispose (r : Registry) (id : Nat) : Registry :=
  { r with entries := r.entries.filter (·.id != id) }

def matching (r : Registry) (d : Document) : List Provider :=
  (r.entries.filter (·.selector.selects d)).map Registration.provider

def provide (engine : Regex.Engine) (r : Registry) (d : Document) : List SymbolInformation :=
  (r.matching d).flatMap (·.symbolsOrNone engine d)

/-- The symbols of every matching provider, or the first pattern that is refused. -/
def tryProvide (engine : Regex.Engine) (r : Registry) (d : Document) :
    Except InvalidPattern (List SymbolInformation) := do
  return (← (r.matching d).mapM (·.symbols engine d)).flatten

/-- What is logged on the way of `tryProvide`: a record for every provider before the first that
fails. -/
def tryProvideLog (engine : Regex.Engine) (r : Registry) (d : Document) : List LogRecord :=
  let results := (r.matching d).map (·.symbols engine d)
  (results.takeWhile (·.isOk)).map fun found =>
    Provider.foundRecord d (found.toOption.getD []).length

def liveCount (r : Registry) : Nat := r.entries.length

/-- The pattern lists of the live providers in the order of registration. -/
def livePatterns (r : Registry) : List (List String) := r.entries.map (·.provider.patterns)

end Registry

/-! ## Handles -/

/-- A table with the handles given out for it, in the order of registration. A handle that was
used to dispose, or that was let go, is spent. -/
structure HandledRegistry where
  registry : Registry := {}
  handles : List (Option Nat) := []
  deriving Repr, DecidableEq

/-- What a client may do with a table and its handles, through whichever reference to it. -/
inductive HandledRegistry.Action where
  | register (selector : Selector) (provider : Provider)
  | dispose (handle : Nat)
  | letGo (handle : Nat)
  | clone
  deriving Repr, DecidableEq

namespace HandledRegistry

/-- The registration that an unspent handle stands for. -/
def held? (r : HandledRegistry) (handle : Nat) : Option Nat := (r.handles[handle]?).join

def spend (r : HandledRegistry) (handle : Nat) : HandledRegistry :=
  { r with handles := r.handles.set handle none }

/-- Carries out one action. Spent and unknown handles do nothing. -/
def act (r : HandledRegistry) : Action → HandledRegistry
  | .register selector provider =>
    let (id, registry) := r.registry.register selector provider
    ⟨registry, r.handles ++ [some id]⟩
  | .dispose handle =>
    match r.held? handle with
    | some id => { r.spend handle with registry := r.registry.dispose id }
    | none => r
  | .letGo handle => r.spend handle
  | .clone => r

end HandledRegistry

/-! ## Clones -/

/-- Tables at their places, references to them, and the handles given out: each has the place of its
table and the number of its registration, unless it is spent. -/
structure RegistryClones where
  tables : List Registry := [{}]
  references : List Nat := [0]
  handles : List (Option (Nat × Nat)) := []
  deriving Repr, DecidableEq

/-- What a client may do with references and handles. -/
inductive RegistryClones.Action where
  | register (reference : Nat) (selector : Selector) (provider : Provider)
  | dispose (handle : Nat)
  | letGo (handle : Nat)
  | clone (reference : Nat)
  deriving Repr, DecidableEq

namespace RegistryClones

/-- The place that a reference is to. A number that stands for none stands for the first one. -/
def place (c : RegistryClones) (reference : Nat) : Nat := c.references.getD reference 0

def table (c : RegistryClones) (reference : Nat) : Registry := c.tables.getD (c.place reference) {}

def held? (c : RegistryClones) (handle : Nat) : Option (Nat × Nat) := (c.handles[handle]?).join

def spend (c : RegistryClones) (handle : Nat) : RegistryClones :=
  { c with handles := c.handles.set handle none }

/-- Carries out one action. Spent and unknown handles do nothing. -/
def act (c : RegistryClones) : Action → RegistryClones
  | .register reference selector provider =>
    let (id, registry) := (c.table reference).register selector provider
    { c with
      tables := c.tables.set (c.place reference) registry
      handles := c.handles ++ [some (c.place reference, id)] }
  | .dispose handle =>
    match c.held? handle with
    | some (place, id) => { c.spend handle with tables := c.tables.modify place (·.dispose id) }
    | none => c
  | .letGo handle => c.spend handle
  | .clone reference => { c with references := c.references ++ [c.place reference] }

end RegistryClones

end AnchorOutline
