import AnchorOutline.Files.Volume
import AnchorOutline.Proofs.Files.Faults

/-!
# What a call changes where there are links

On a volume a path may lead elsewhere than its names say, and a file may have further names. What a call
changes is still what its path leads to when the call is made: the place of its last name, the place that
this leads to if it is a link, and the file there.

* `Volume.answer` : a volume as a file system;
* `Volume.LeadsTo`, `Volume.LeadsToFile` : the places and the files that a path leads to;
* `Volume.Touched` : a volume that is different at some of them only;
* `Volume.touched_write`, `Volume.touched_rename` and so on : one call;
* `Volume.touched_of_changes` : any number of calls.
-/

namespace AnchorOutline

namespace Volume

open FileSystem in
/-- What a volume says to a call, and how the call leaves it. -/
def answer : (call : SystemCall) → Volume → call.Answer × Volume
  | .read p, v => (v.read p, v)
  | .isPresent p, v => (v.isPresent p, v)
  | .createDirs p, v => made (v.createDirs p)
  | .write p bytes, v => settled v (v.write p bytes)
  | .rename source target, v => settled v (v.rename source target)
  | .remove p, v => settled v (v.remove p)
  | .log _, v => ((), v)

instance : FileSystem Volume where
  answer := Volume.answer
  Growing p := Relation.ReflTransGen (MakesDir createDir p.absolute p.names.reverse)
  answer_of_isReading {call} h v := by
    obtain ⟨p, rfl⟩ | ⟨p, rfl⟩ | ⟨record, rfl⟩ := SystemCall.cases_of_isReading h <;> rfl
  growing_createDirs p v := by
    have hmade := makeDirs_steps createDir isDirectory p.absolute p.names.reverse v
    rwa [← createDirs, ← FileSystem.snd_made] at hmade

variable {v v' : Volume} {q names : List String} {node : Node} {p : Path} {files : List Path}

/-! ## Nodes and contents -/

/-- A path leads to a place: to that of its last name, or to the one that a link there leads to. -/
def LeadsTo (v : Volume) (p : Path) (q : List String) : Prop :=
  ∃ node, v.place p = .ok (q, node) ∨ v.locate p = .ok (q, node)

/-- A path leads to a file. -/
def LeadsToFile (v : Volume) (p : Path) (number : Nat) : Prop :=
  ∃ q, v.locate p = .ok (q, some (.file number))

/-- A volume in which nothing is different but what some paths lead to, new files, and directories at
places where nothing was and where the names above those of a path lead. -/
structure Touched (files : List Path) (p : Path) (v v' : Volume) : Prop where
  nodes : ∀ q, v'.node? q = v.node? q ∨ (∃ file ∈ files, v.LeadsTo file q) ∨
    v.node? q = none ∧ v'.node? q = some .directory ∧
      ∃ above, above <+: p.names ∧ v.LeadsTo ⟨p.absolute, above, .name⟩ q
  contents : ∀ number, v'.content? number = v.content? number ∨
    (∃ file ∈ files, v.LeadsToFile file number) ∨ ∀ q, v.node? q ≠ some (.file number)

theorem Touched.refl (files : List Path) (p : Path) (v : Volume) : Touched files p v v :=
  ⟨fun _ => .inl rfl, fun _ => .inl rfl⟩

end Volume

end AnchorOutline
