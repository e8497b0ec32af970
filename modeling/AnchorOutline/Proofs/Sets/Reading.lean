import AnchorOutline.Proofs.Sets.Recall

/-!
# Two readers of a config file

A config is loaded from a file, and a store gives the sets in it. Where nothing is found both take the
config for empty. Loading also does so where the way to the file is barred, which a store reports, and
this is the only place where they differ.

* `Tree.Barred` : a way that a file or a bad name stands in;
* `Tree.isPresent_eq_false` : nothing is present where nothing is found or the way is barred;
* `ConfigFile.Agrees` : what is loaded and what a store gives fit together;
* `ConfigFile.load_agrees_get_iff` : when they do.
-/

namespace AnchorOutline

/-! ## Barred ways -/

namespace Tree

variable {t : Tree} {p : Path} {e : FileError}

/-- The way along a path is barred: it leads through a file, or behind one, or has a name that no file
can have. -/
def Barred (t : Tree) (p : Path) : Prop :=
  t.read p = .error .notDirectory ∨ t.read p = .error .nameTooLong ∨ t.read p = .error .nullInName

/-- Names lead nowhere where one is too long, where a file is in the way or where nothing is. -/
theorem walk_eq_error {here names : List String} (h : t.walk here names = .error e) :
    e = .notDirectory ∨ e = .nameTooLong ∨ e = .notFound := by
  fun_induction walk t here names with
  | case1 => cases h
  | case2 here rest ih => exact ih h
  | case3 here rest ih => exact ih h
  | case4 =>
    cases h
    simp
  | case5 here name rest _ _ _ _ ih => exact ih h
  | case6 => cases h
  | case7 =>
    cases h
    simp
  | case8 =>
    cases h
    simp

theorem locate_eq_error (h : t.locate p = .error e) :
    e = .notDirectory ∨ e = .nameTooLong ∨ e = .nullInName ∨ e = .notFound := by
  unfold locate at h
  split at h
  next =>
    cases h
    simp
  next =>
    split at h
    next =>
      cases h
      simp
    next =>
      rcases walk_eq_error h with hfile | hlong | hmissing
      · exact .inl hfile
      · exact .inr (.inl hlong)
      · exact .inr (.inr (.inr hmissing))

/-- Nothing is present where nothing is found or the way is barred. -/
theorem isPresent_eq_false :
    t.isPresent p = false ↔ t.read p = .error .notFound ∨ t.Barred p := by
  unfold isPresent Barred read
  cases hlocate : t.locate p with
  | error e =>
    rcases locate_eq_error hlocate with rfl | rfl | rfl | rfl <;> simp [bind, Except.bind]
  | ok r =>
    obtain ⟨names, _ | ⟨bytes | _⟩⟩ := r
    · simp [bind, Except.bind]
    · by_cases hslash : p.ending = .slash <;> simp [bind, Except.bind, hslash]
    · simp [bind, Except.bind]

end Tree

namespace ConfigFile

variable {path : String}

/-! ## Reading -/

/-- What is loaded and what a store gives: a config and its sets, or two failures. -/
def Agrees : Except StoreError Config → Except StoreError (List PatternSet) → Prop
  | .ok config, .ok sets => sets = config.sets
  | .error _, .error _ => True
  | _, _ => False

theorem notFound_of_fileText {found : Except FileError ByteArray}
    (h : fileText found = .error .notFound) : found = .error .notFound := by
  cases found with
  | ok bytes => exact absurd h (fileText_ne_notFound bytes)
  | error e => exact congrArg Except.error (Except.error.inj h)

theorem agrees_of_found {found : Except FileError String} (h : found ≠ .error .notFound) :
    Agrees (loadedOf path found) ((configOf path found).map Config.sets) := by
  cases found with
  | ok text =>
    rw [loadedOf, configOf]
    cases parse path text with
    | ok config => rfl
    | error e => trivial
  | error e => cases e <;> first | exact absurd rfl h | trivial

/-- Where the way is barred, an empty config is loaded, but a store says that it cannot read it. -/
theorem read_of_barred {m : Machine} (h : m.tree.Barred (Path.ofString path)) :
    (m.run (load path)).1 = .ok {} ∧ ∃ e, given path m.tree = .error (.cannotRead path e) := by
  rw [run_load, Tree.isPresent_eq_false.mpr (.inr h)]
  refine ⟨rfl, ?_⟩
  rcases h with hread | hread | hread
  · exact ⟨_, by rw [given, hread]; rfl⟩
  · exact ⟨_, by rw [given, hread]; rfl⟩
  · exact ⟨_, by rw [given, hread]; rfl⟩

/-- Loading a config agrees with what a store gives of its file just where the way to it is not barred. -/
theorem load_agrees_get_iff (path : String) (m : Machine) :
    Agrees (m.run (load path)).1 (m.run ((SetStore.configFile path).get ())).1.1 ↔
      ¬ m.tree.Barred (Path.ofString path) := by
  rw [run_get]
  constructor
  · intro hagrees hbarred
    obtain ⟨hload, e, hgiven⟩ := read_of_barred hbarred
    rw [hload, hgiven] at hagrees
    exact hagrees
  · intro hopen
    rw [run_load, given]
    cases hpresent : m.tree.isPresent (Path.ofString path) with
    | true =>
      have hfound : fileText (m.tree.read (Path.ofString path)) ≠ .error .notFound := by
        intro hmissing
        rw [Tree.isPresent_of_notFound (notFound_of_fileText hmissing)] at hpresent
        cases hpresent
      exact agrees_of_found hfound
    | false =>
      have hmissing := (Tree.isPresent_eq_false.mp hpresent).resolve_right hopen
      rw [hmissing]
      rfl

/-- A path that leads through a file. -/
theorem load_through_file :
    let m : Machine := { tree := ⟨[(["f"], .file "x".toByteArray)]⟩ }
    (m.run (load "f/config.json")).1 = .ok {} ∧
      (m.run ((SetStore.configFile "f/config.json").get ())).1.1 =
        .error (.cannotRead "f/config.json" .notDirectory) := by
  intro m
  have hpath : Path.ofString "f/config.json" = ⟨false, ["f", "config.json"], .name⟩ := by
    decide +kernel
  have hread : m.tree.read (Path.ofString "f/config.json") = .error .notDirectory := by
    rw [hpath]
    rfl
  rw [run_load, Tree.isPresent_eq_false.mpr (.inr (.inl hread)), run_get, given, hread]
  exact ⟨rfl, rfl⟩

end ConfigFile

end AnchorOutline
