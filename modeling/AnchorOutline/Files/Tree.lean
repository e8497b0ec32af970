import AnchorOutline.Files.Path

/-!
# Directory trees

The files and directories below the place where a program works, without symbolic links and without
second names of a file. That place itself, where absolute paths begin, too, and whatever a tree holds
as a directory may be entered; a path goes through them name by name.

* `Tree.walk` : where names lead;
* `Tree.read`, `Tree.write`, `Tree.createDirs`, `Tree.rename`, `Tree.remove` : what a program may
  do with a tree, failing as the system does;
* `FileError` : the reasons to fail;
* `makeDirs` : directories above one another, wherever they are made.
-/

namespace AnchorOutline

/-! ## Reasons to fail -/

inductive FileError where
  | notFound
  | alreadyExists
  | notDirectory
  | isDirectory
  | nameTooLong
  | nullInName
  | notText
  /-- A reason that only the real system gives. -/
  | other (message : String)
  deriving Repr, DecidableEq

namespace FileError

def message : FileError → String
  | notFound => "No such file or directory (os error 2)"
  | alreadyExists => "File exists (os error 17)"
  | notDirectory => "Not a directory (os error 20)"
  | isDirectory => "Is a directory (os error 21)"
  | nameTooLong => "File name too long (os error 36)"
  | nullInName => "file name contained an unexpected NUL byte"
  | notText => "stream did not contain valid UTF-8"
  | other message => message

end FileError

/-! ## Making directories -/

/-- Makes the directory of a path and those above it, `above` being its names from the last one
on, by making one directory at a time. Directories that are there already are left. A failure comes
with what was made before it. -/
def makeDirs {σ : Type} (createDir : σ → Path → Except FileError σ) (isDirectory : σ → Path → Bool)
    (absolute : Bool) : List String → σ → Except (FileError × σ) σ
  | [], s => .ok s
  | name :: above, s =>
    let p : Path := ⟨absolute, (name :: above).reverse, .name⟩
    let settle (s : σ) (e : FileError) : Except (FileError × σ) σ :=
      if isDirectory s p then .ok s else .error (e, s)
    match createDir s p with
    | .ok s => .ok s
    | .error .notFound => do
      let s ← makeDirs createDir isDirectory absolute above s
      match createDir s p with
      | .ok s => .ok s
      | .error e => settle s e
    | .error e => settle s e

/-! ## Trees -/

/-- What a name may stand for. -/
inductive Entry where
  | file (bytes : ByteArray)
  | directory

instance : DecidableEq Entry
  | .file ⟨a⟩, .file ⟨b⟩ =>
    decidable_of_iff (a = b) ⟨fun h => h ▸ rfl, fun h => ByteArray.mk.inj (Entry.file.inj h)⟩
  | .directory, .directory => .isTrue rfl
  | .file _, .directory => .isFalse nofun
  | .directory, .file _ => .isFalse nofun

/-- Files and directories by the names that lead to them. The empty list of names is the place
itself and is not listed. -/
structure Tree where
  entries : List (List String × Entry) := []
  deriving DecidableEq

namespace Tree

/-- What is found under names that are taken as they are. -/
def entry? (t : Tree) (names : List String) : Option Entry :=
  if names = [] then some .directory else t.entries.lookup names

/-- Puts an entry under names, in place of the one that is there. -/
def put (t : Tree) (names : List String) (entry : Entry) : Tree :=
  ⟨t.entries.filter (·.1 != names) ++ [(names, entry)]⟩

def erase (t : Tree) (names : List String) : Tree := ⟨t.entries.filter (·.1 != names)⟩

/-- The names that a path comes to from a directory, and what is there. One dot stays in the
directory and two lead back. Only the last name may be missing. -/
def walk (t : Tree) : List String → List String → Except FileError (List String × Option Entry)
  | here, [] => .ok (here, some .directory)
  | here, "." :: rest => walk t here rest
  | here, ".." :: rest => walk t here.dropLast rest
  | here, name :: rest =>
    if 255 < name.utf8ByteSize then .error .nameTooLong
    else match t.entry? (here ++ [name]), rest with
      | some .directory, rest => walk t (here ++ [name]) rest
      | entry, [] => .ok (here ++ [name], entry)
      | some (.file _), _ => .error .notDirectory
      | none, _ => .error .notFound

/-- Where a path leads, and what is there. -/
def locate (t : Tree) (p : Path) : Except FileError (List String × Option Entry) :=
  if p.isEmpty then .error .notFound
  else if p.names.any (·.toList.contains '\x00') then .error .nullInName
  else t.walk [] (p.names ++ if p.ending = .dot then ["."] else [])

/-! ## What a program may do -/

def read (t : Tree) (p : Path) : Except FileError ByteArray := do
  match ← t.locate p with
  | (_, none) => .error .notFound
  | (_, some .directory) => .error .isDirectory
  | (_, some (.file bytes)) => if p.ending = .slash then .error .notDirectory else .ok bytes

/-- Whether a path leads to something. -/
def isPresent (t : Tree) (p : Path) : Bool :=
  match t.locate p with
  | .ok (_, some .directory) => true
  | .ok (_, some (.file _)) => p.ending != .slash
  | _ => false

def isDirectory (t : Tree) (p : Path) : Bool :=
  match t.locate p with
  | .ok (_, some .directory) => true
  | _ => false

def createDir (t : Tree) (p : Path) : Except FileError Tree := do
  match ← t.locate p with
  | (names, none) => .ok (t.put names .directory)
  | (_, some _) => .error .alreadyExists

/-- Makes the directory of a path and those above it, given its names from the last one on. -/
def createDirsFrom (t : Tree) (absolute : Bool) (names : List String) :
    Except (FileError × Tree) Tree :=
  makeDirs createDir isDirectory absolute names t

/-- Makes the directory of a path and those above it. -/
def createDirs (t : Tree) (p : Path) : Except (FileError × Tree) Tree :=
  t.createDirsFrom p.absolute p.names.reverse

/-- Puts a file with the given bytes under a path, in place of the file that is there. -/
def write (t : Tree) (p : Path) (bytes : ByteArray) : Except FileError Tree := do
  match ← t.locate p with
  | (_, some .directory) => .error .isDirectory
  | (names, _) => if p.ending = .slash then .error .isDirectory else .ok (t.put names (.file bytes))

/-- Moves a file, in place of the file that is at the other path. -/
def rename (t : Tree) (source target : Path) : Except FileError Tree := do
  match ← t.locate source, ← t.locate target with
  | (_, none), _ => .error .notFound
  | (_, some .directory), _ => .error .isDirectory
  | _, (_, some .directory) => .error .isDirectory
  | (old, some (.file bytes)), (new, _) =>
    if source.ending = .slash || target.ending = .slash then .error .notDirectory
    else .ok ((t.erase old).put new (.file bytes))

def remove (t : Tree) (p : Path) : Except FileError Tree := do
  match ← t.locate p with
  | (_, none) => .error .notFound
  | (_, some .directory) => .error .isDirectory
  | (names, some (.file _)) =>
    if p.ending = .slash then .error .notDirectory else .ok (t.erase names)

end Tree

end AnchorOutline
