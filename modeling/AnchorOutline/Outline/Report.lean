import AnchorOutline.Outline.DocumentFile
import AnchorOutline.Outline.Listing
import AnchorOutline.Sets.Store

/-!
# The outline of a document

* `assemblePatterns` : the patterns of a saved set, if one is asked for, and further ones;
* `renderOutline` : the symbols of a document as a text.
-/

namespace AnchorOutline

inductive OutlineError where
  | store (reason : StoreError)
  | unknownSet (id : String)
  | noPatterns
  | unreadable (reason : UnreadableFile)
  | invalidPattern (reason : InvalidPattern)
  deriving Repr, DecidableEq

namespace OutlineError

def message : OutlineError → String
  | store reason => reason.message
  | unknownSet id => s!"No saved pattern set named {Text.quote id}"
  | noPatterns => "No patterns given. Use --pattern or --set."
  | unreadable reason => reason.message
  | invalidPattern reason => reason.message

/-- The reason behind the message, where it is one of its own. -/
def cause? : OutlineError → Option String
  | invalidPattern reason => some reason.source.message
  | _ => none

end OutlineError

def savedPatterns (sets : List PatternSet) (id : String) : Except OutlineError (List String) :=
  match PatternSet.find? sets id with
  | some set => .ok set.texts
  | none => .error (.unknownSet id)

/-- The patterns of a saved set, if one is asked for, followed by further ones. There has to be
at least one. -/
def assemblePatterns {σ : Type} (store : SetStore σ) (s : σ) (set? : Option String)
    (extra : List String) : Action (Except OutlineError (List String)) := do
  let saved ← match set? with
    | none => pure (.ok [])
    | some id => do
      let (sets, _) ← store.get s
      pure (sets.mapError .store >>= (savedPatterns · id))
  return do
    let patterns := (← saved) ++ extra
    if patterns.isEmpty then .error .noPatterns else .ok patterns

/-- The symbols of a document, as lines or as JSON. -/
def renderOutline (engine : Regex.Engine) (patterns : List String) (document : Document)
    (json : Bool) : Except InvalidPattern String := do
  let symbols ← (Provider.mk patterns).symbols engine document
  return if json then jsonListing symbols else plainListing symbols

end AnchorOutline
