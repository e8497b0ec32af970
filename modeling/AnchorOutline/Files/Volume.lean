import AnchorOutline.Files.Tree

/-!
# Volumes with links

Directories whose names stand for further directories, for files, or for symbolic links. A file goes by
a number, and several names may stand for one. A path that comes to a symbolic link goes on where that
points to.

* `Volume.locate` : where a path leads when all links are followed;
* `Volume.place` : the place of the last name of a path, where a link is not followed;
* `Volume.read`, `Volume.write`, `Volume.createDirs`, `Volume.rename`, `Volume.remove` : what a program
  may do with a volume, failing as the system does.
-/

namespace AnchorOutline

/-- What a name may stand for where there are links. -/
inductive Node where
  | directory
  | file (number : Nat)
  | link (target : Path)
  deriving Repr, DecidableEq

def Node.number? : Node → Option Nat
  | file number => some number
  | directory | link _ => none

/-- Names with what they stand for, and the bytes of the files by their numbers. The names before the
last one of each are those of directories. -/
structure Volume where
  nodes : List (List String × Node) := []
  contents : List (Nat × ByteArray) := []

namespace Volume

/-- What is found under names that are taken as they are. -/
def node? (v : Volume) (names : List String) : Option Node :=
  if names = [] then some .directory else v.nodes.lookup names

def content? (v : Volume) (number : Nat) : Option ByteArray := v.contents.lookup number

/-- Puts a node under names, in place of the one that is there. -/
def put (v : Volume) (names : List String) (node : Node) : Volume :=
  { v with nodes := v.nodes.filter (·.1 != names) ++ [(names, node)] }

/-- Takes away what is under names. The file itself stays for its other names. -/
def erase (v : Volume) (names : List String) : Volume :=
  { v with nodes := v.nodes.filter (·.1 != names) }

def fill (v : Volume) (number : Nat) (bytes : ByteArray) : Volume :=
  { v with contents := v.contents.filter (·.1 != number) ++ [(number, bytes)] }

/-- A number that no file has. -/
def freshNumber (v : Volume) : Nat :=
  (v.nodes.filterMap (·.2.number?) ++ v.contents.map (·.1)).foldl max 0 + 1

/-! ## Following names -/

/-- The names to follow, an ending that only a directory may have being one more dot. -/
def steps (p : Path) : List String := p.names ++ if p.ending = .name then [] else ["."]

/-- The names that a path comes to from a directory, and what is there. A symbolic link is followed by
`follow`. Only the last name may be missing. -/
def walk (v : Volume)
    (follow : List String → List String → Except FileError (List String × Option Node)) :
    List String → List String → Except FileError (List String × Option Node)
  | here, [] => .ok (here, some .directory)
  | here, "." :: rest => walk v follow here rest
  | here, ".." :: rest => walk v follow here.dropLast rest
  | here, name :: rest =>
    if 255 < name.utf8ByteSize then .error .nameTooLong
    else match v.node? (here ++ [name]), rest with
      | some .directory, rest => walk v follow (here ++ [name]) rest
      | some (.link target), rest => follow (if target.absolute then [] else here) (steps target ++ rest)
      | node, [] => .ok (here ++ [name], node)
      | some (.file _), _ => .error .notDirectory
      | none, _ => .error .notFound

def tooManyLinks : FileError := .other "Too many levels of symbolic links (os error 40)"

/-- Goes through names from a directory, following a number of symbolic links. -/
def walkLinks (v : Volume) :
    Nat → List String → List String → Except FileError (List String × Option Node)
  | 0 => v.walk fun _ _ => .error tooManyLinks
  | links + 1 => v.walk (v.walkLinks links)

/-- Goes through the names of a path, following as many symbolic links as the system does. -/
def follow (v : Volume) (p : Path) (names : List String) :
    Except FileError (List String × Option Node) :=
  if p.isEmpty then .error .notFound
  else if p.names.any (·.toList.contains '\x00') then .error .nullInName
  else v.walkLinks 40 [] names

/-- Where a path leads when all links are followed, and what is there. -/
def locate (v : Volume) (p : Path) : Except FileError (List String × Option Node) :=
  v.follow p (p.names ++ if p.ending = .dot then ["."] else [])

/-- The last name of a path, unless it stands for a directory in any case. -/
def lastName? (p : Path) : Option String :=
  if p.ending = .dot then none
  else p.names.getLast?.filter fun name => name != "." && name != ".."

/-- The place of the last name of a path, which may be a link, and what is there. -/
def place (v : Volume) (p : Path) : Except FileError (List String × Option Node) := do
  match lastName? p with
  | none => v.locate p
  | some name =>
    if 255 < name.utf8ByteSize then .error .nameTooLong
    else match ← v.follow p (p.names.dropLast ++ ["."]) with
      | (here, some .directory) => .ok (here ++ [name], v.node? (here ++ [name]))
      | _ => .error .notDirectory

/-! ## What a program may do -/

def read (v : Volume) (p : Path) : Except FileError ByteArray := do
  match ← v.locate p with
  | (_, some .directory) => .error .isDirectory
  | (_, some (.file number)) =>
    if p.ending = .slash then .error .notDirectory else .ok ((v.content? number).getD .empty)
  | _ => .error .notFound

def isPresent (v : Volume) (p : Path) : Bool :=
  match v.locate p with
  | .ok (_, some .directory) => true
  | .ok (_, some (.file _)) => p.ending != .slash
  | _ => false

def isDirectory (v : Volume) (p : Path) : Bool :=
  match v.locate p with
  | .ok (_, some .directory) => true
  | _ => false

def createDir (v : Volume) (p : Path) : Except FileError Volume := do
  match ← v.place p with
  | (names, none) => .ok (v.put names .directory)
  | (_, some _) => .error .alreadyExists

/-- Makes the directory of a path and those above it. -/
def createDirs (v : Volume) (p : Path) : Except (FileError × Volume) Volume :=
  makeDirs createDir isDirectory p.absolute p.names.reverse v

/-- Gives the file that a path leads to the given bytes, or puts a new file there. -/
def write (v : Volume) (p : Path) (bytes : ByteArray) : Except FileError Volume := do
  match ← v.locate p with
  | (_, some .directory) => .error .isDirectory
  | (names, node) =>
    if p.ending = .slash then .error .isDirectory
    else match node with
      | some (.file number) => .ok (v.fill number bytes)
      | _ => .ok ((v.fill v.freshNumber bytes).put names (.file v.freshNumber))

/-- Moves a file or a link, in place of the one at the other path. Where both are names of one file,
nothing is done. -/
def rename (v : Volume) (source target : Path) : Except FileError Volume := do
  match ← v.place source, ← v.place target with
  | (_, none), _ => .error .notFound
  | (_, some .directory), _ => .error .isDirectory
  | _, (_, some .directory) => .error .isDirectory
  | (old, some node), (new, there) =>
    if source.ending = .slash || target.ending = .slash then .error .notDirectory
    else if node.number?.isSome && there = some node then .ok v
    else .ok ((v.erase old).put new node)

def remove (v : Volume) (p : Path) : Except FileError Volume := do
  match ← v.place p with
  | (_, none) => .error .notFound
  | (_, some .directory) => .error .isDirectory
  | (names, some _) => if p.ending = .slash then .error .notDirectory else .ok (v.erase names)

end Volume

end AnchorOutline
