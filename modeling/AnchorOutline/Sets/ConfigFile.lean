import AnchorOutline.Files.System
import AnchorOutline.Sets.Config

/-!
# Config files

A config file is replaced as a whole: the new text is written beside it and then moved into its
place, so the file holds one complete text or the other, whatever fails.

* `ConfigFile.load` : the config of a file, the empty one where there is no file;
* `ConfigFile.sets`, `ConfigFile.putSets` : reading and replacing the saved sets, all else being
  left as it is;
* `ConfigFile.create` : a first file with two sets to begin with.
-/

namespace AnchorOutline

inductive StoreError where
  | file (reason : FileError)
  | cannotRead (path : String) (reason : FileError)
  | invalidConfig (path : String) (reason : Json.Error)
  | alreadyExists (path : String)
  /-- A store that is no file may have reasons of its own. -/
  | refused (message : String)
  deriving Repr, DecidableEq

namespace StoreError

def message : StoreError → String
  | file reason => reason.message
  | cannotRead path reason => s!"Cannot read {path}: {reason.message}"
  | invalidConfig path reason => s!"Invalid config at {path}: {reason.message}"
  | alreadyExists path =>
    s!"Config file already exists at: {path}. Please edit it directly."
  | refused message => message

end StoreError

namespace ConfigFile

def logTarget : String := "dynsym_config::store"

/-- Where the config file is below a home directory. -/
def defaultPath (home : String) : String :=
  if home.endsWith "/" then home ++ "dynsym/config.json" else home ++ "/dynsym/config.json"

/-! ## Reading -/

def parse (path text : String) : Except StoreError Config :=
  (Config.parse text).mapError (.invalidConfig path)

/-- The config at a path; where nothing is, it is empty. -/
def load (path : String) : Action (Except StoreError Config) := do
  let p := Path.ofString path
  if !(← Action.isPresent p) then return .ok {}
  match ← Action.readText p with
  | .error e => return .error (.file e)
  | .ok text => return parse path text

/-- The config at a path, for its sets; that there is no file is logged. -/
def read (path : String) : Action (Except StoreError Config) := do
  match ← Action.readText (Path.ofString path) with
  | .ok text => return parse path text
  | .error .notFound =>
    Action.log ⟨.debug, logTarget, s!"No config at {path}, starting empty"⟩
    return .ok {}
  | .error e => return .error (.cannotRead path e)

def sets (path : String) : Action (Except StoreError (List PatternSet)) := do
  return (← read path).map Config.sets

/-! ## Writing -/

def makeParent (p : Path) : Action (Except FileError Unit) :=
  match p.parent? with
  | some parent => Action.createDirs parent
  | none => return .ok ()

/-- Puts a text into the place of the file at a path. -/
def replace (p : Path) (text : String) : Action (Except FileError Unit) := do
  match ← makeParent p with
  | .error e => return .error e
  | .ok () =>
    let beside := p.withExtension "json.tmp"
    match ← Action.write beside text.toUTF8 with
    | .error e => return .error e
    | .ok () =>
      match ← Action.rename beside p with
      | .ok () => return .ok ()
      | .error e => do
        let _ ← Action.remove beside
        return .error e

/-- Replaces the saved sets in the file at a path. -/
def putSets (path : String) (sets : List PatternSet) : Action (Except StoreError Unit) := do
  match ← read path with
  | .error e => return .error e
  | .ok config =>
    match ← replace (Path.ofString path) (Config.text { config with sets := sets }) with
    | .error e => return .error (.file e)
    | .ok () =>
      Action.log ⟨.info, logTarget, s!"Wrote {sets.length} pattern sets to {path}"⟩
      return .ok ()

/-! ## The first file -/

def template : String :=
"\x7b
  \"definitions\": [
    \x7b
      \"id\": \"markdown\",
      \"patterns\": [
        \x7b \"ignoreCase\": false, \"isRegex\": true, \"pattern\": \"^#\x7b1,6\x7d .*\" \x7d
      ]
    \x7d,
    \x7b
      \"id\": \"python\",
      \"patterns\": [
        \x7b \"ignoreCase\": false, \"isRegex\": true, \"pattern\": \"^\\\\s*class\\\\s+\\\\w+\" \x7d,
        \x7b \"ignoreCase\": false, \"isRegex\": true, \"pattern\": \"^\\\\s*def\\\\s+\\\\w+\" \x7d
      ]
    \x7d
  ],
  \"log_filter\": \"warn\"
\x7d
"

/-- Writes a first config file where there is nothing yet. -/
def create (path : String) : Action (Except StoreError Unit) := do
  let p := Path.ofString path
  if ← Action.isPresent p then return .error (.alreadyExists path)
  match ← makeParent p with
  | .error e => return .error (.file e)
  | .ok () => return (← Action.write p template.toUTF8).mapError .file

end ConfigFile

end AnchorOutline
