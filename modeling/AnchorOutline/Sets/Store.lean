import AnchorOutline.Sets.ConfigFile

/-!
# Stores for pattern sets

A store gives out the whole list of saved sets and takes a whole new one. It may have a state of
its own, may use the system, and may fail.

* `SetStore.memory` : a list that lasts as long as the program;
* `SetStore.configFile` : the sets in a config file;
* `SetStore.refusing` : a store that fails where it is told to.
-/

namespace AnchorOutline

/-- A store for pattern sets with states in `σ`. -/
structure SetStore (σ : Type) where
  get : σ → Action (Except StoreError (List PatternSet) × σ)
  put : List PatternSet → σ → Action (Except StoreError Unit × σ)

namespace SetStore

def memory : SetStore (List PatternSet) where
  get sets := return (.ok sets, sets)
  put sets _ := return (.ok (), sets)

def configFile (path : String) : SetStore Unit where
  get _ := return (← ConfigFile.sets path, ())
  put sets _ := return (← ConfigFile.putSets path sets, ())

/-- A store some of whose uses fail with a message. -/
def refusing {σ : Type} (onGet onPut : Option String) (store : SetStore σ) : SetStore σ where
  get s := match onGet with
    | some message => return (.error (.refused message), s)
    | none => store.get s
  put sets s := match onPut with
    | some message => return (.error (.refused message), s)
    | none => store.put sets s

end SetStore

end AnchorOutline
