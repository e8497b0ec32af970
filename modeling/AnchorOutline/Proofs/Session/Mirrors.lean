import AnchorOutline.Proofs.Sets.Serving
import AnchorOutline.Proofs.Terminal.Input

/-!
# The trees of sessions with different stores

A session that keeps its sets in a config file makes directories above it and puts files at its place and
beside it; one that keeps them in memory does not. Their trees agree elsewhere. In a directory that was
only made for the config file the second session finds nothing, and the first one nothing that it did not
put there, as long as nobody else does.

* `ConfigFile.Kept` : the places where the trees agree;
* `ConfigFile.Aside` : names in a directory that is made for the config file, at which saving makes nothing;
* `ConfigFile.Shows`, `ConfigFile.Harmless` : which file may be shown, and what others may change;
* `Mirrors` : the trees of two such sessions that are at the same point;
* `Mirrors.changes`, `Mirrors.read_eq` : they stay so whatever others change, and the file that is shown is
  the same in both.
-/

namespace AnchorOutline

/-! ## Places -/

namespace ConfigFile

/-- A place that saving leaves as it is: it has nothing to do with the config file, or a directory was
there from the beginning. -/
def Untouched (path : String) (t₀ : Tree) (q : List String) : Prop :=
  Place (Path.ofString path) q → t₀.entry? q = some .directory

/-- A place that saving leaves as it is, in a directory that is not made for the config file. -/
def Kept (path : String) (t₀ : Tree) (q : List String) : Prop :=
  Untouched path t₀ q ∧ ∀ d ∈ (Path.ofString path).places, d <+: q → t₀.entry? d = some .directory

/-- A path that meets the path of the config file in directories only, which were there from the
beginning. -/
def Foreign (path : String) (t₀ : Tree) (p : Path) : Prop :=
  ∀ q ∈ p.places, q ∈ (Path.ofString path).places → t₀.entry? q = some .directory

/-- A name in a directory that is made for the config file. Saving makes nothing there. -/
structure Aside (path : String) (t₀ : Tree) (names : List String) : Prop where
  below : ∃ parent d name, (Path.ofString path).parent? = some parent ∧ d ∈ parent.places ∧
    t₀.entry? d = none ∧ names = d ++ [name]
  apart : ¬ Place (Path.ofString path) names
  vacant : t₀.entry? names = none
  nameable : Tree.Nameable names

/-- The file that is shown is not at a place that saving touches, nor reached through one; or it is reached
through a directory that is made for the config file, by another name in it. -/
def Shows (path file : String) (t₀ : Tree) : Prop :=
  (∀ q ∈ (Path.ofString file).places, Untouched path t₀ q) ∨
    ∃ names, Aside path t₀ names ∧ names <+: (Path.ofString file).names

/-- What others change is foreign to the config file; or it is in a directory that is made for the config
file, and nothing that leads to the file that is shown. -/
def Harmless (path file : String) (t₀ : Tree) (p : Path) : Prop :=
  Foreign path t₀ p ∨
    ∃ names, Aside path t₀ names ∧ names <+: p.names ∧ ¬ names <+: (Path.ofString file).names

variable {path file : String} {t₀ : Tree} {p : Path} {names : List String}

theorem Foreign.kept (h : Foreign path t₀ p) {q : List String} (hq : q ∈ p.places)
    (hold : t₀.entry? q = some .directory) : Kept path t₀ q := by
  refine ⟨fun _ => hold, fun d hd hprefix => ?_⟩
  rcases Tree.mem_placesFrom_of_isPrefix hq hprefix with hmem | hroot
  · exact h d hmem hd
  · rw [List.prefix_nil.mp hroot]
    rfl

theorem kept_of_untouched (h : ∀ q ∈ p.places, Untouched path t₀ q) {q : List String}
    (hq : q ∈ p.places) : Kept path t₀ q := by
  refine ⟨h q hq, fun d hd hprefix => ?_⟩
  rcases Tree.mem_placesFrom_of_isPrefix hq hprefix with hmem | hroot
  · exact h d hmem (.inl hd)
  · rw [List.prefix_nil.mp hroot]
    rfl

theorem Aside.not_kept (h : Aside path t₀ names) : ¬ Kept path t₀ names := by
  obtain ⟨parent, d, name, hparent, hd, hnone, rfl⟩ := h.below
  intro hkept
  have hdirectory := hkept.2 d (places_parent_subset hparent hd) ⟨[name], rfl⟩
  rw [hnone] at hdirectory
  cases hdirectory

theorem Aside.not_mem_places (h : Aside path t₀ names) (hforeign : Foreign path t₀ p) :
    names ∉ p.places := by
  obtain ⟨parent, d, name, hparent, hd, hnone, rfl⟩ := h.below
  intro hmem
  have hold : t₀.entry? d ≠ some .directory := by simp [hnone]
  rcases Tree.mem_placesFrom_of_isPrefix hmem ⟨[name], rfl⟩ with hmem | hroot
  · exact hold (hforeign d hmem (places_parent_subset hparent hd))
  · rw [List.prefix_nil.mp hroot] at hold
    exact hold rfl

end ConfigFile

/-! ## Trees -/

/-- The tree of a session with a config file and that of one with a list in memory, both of which began
with the tree `t₀` and show the same file. The config file has the sets of the list, and the trees agree
where saving leaves them as they are. -/
structure Mirrors (path file : String) (t₀ t t' : Tree) (sets : List PatternSet) : Prop where
  begun : ConfigFile.Replaceable (Path.ofString path) t₀
  serves : ∃ c : Config, ConfigFile.Serves path t c ∧ c.Exact ∧ c.sets = sets
  agree : t.Agrees (ConfigFile.Kept path t₀) t'
  lasting : ∀ q, t₀.entry? q = some .directory → t.entry? q = some .directory
  made : ∀ q, t.entry? q = some .directory →
    t₀.entry? q = some .directory ∨ ConfigFile.Place (Path.ofString path) q
  directories : ∀ q, t'.entry? q = some .directory ↔ t₀.entry? q = some .directory
  unmade : ∀ q ∈ (Path.ofString path).places, t₀.entry? q = none → t'.entry? q = none
  vacant : ∀ names, ConfigFile.Aside path t₀ names → names <+: (Path.ofString file).names →
    t.entry? names = none

namespace Mirrors

variable {path file : String} {t₀ t t' : Tree} {sets : List PatternSet} {names : List String}

theorem start {c : Config} (hserves : ConfigFile.Serves path t₀ c) (hexact : c.Exact) :
    Mirrors path file t₀ t₀ t₀ c.sets where
  begun := hserves.replaceable
  serves := ⟨c, hserves, hexact, rfl⟩
  agree _ _ := rfl
  lasting _ h := h
  made _ h := .inl h
  directories _ := .rfl
  unmade _ _ h := h
  vacant _ haside _ := haside.vacant

/-- Saving changes the places of the config file only, and makes no directory a file. -/
theorem save (h : Mirrors path file t₀ t t' sets) {u : Tree} {new : List PatternSet}
    (hedited : t.Edited (ConfigFile.Place (Path.ofString path)) u)
    (hserves : ∃ c : Config, ConfigFile.Serves path u c ∧ c.Exact ∧ c.sets = new) :
    Mirrors path file t₀ u t' new where
  begun := h.begun
  serves := hserves
  agree q hq := by
    rcases hedited q with hsame | ⟨hplace, hne⟩
    · exact hsame.trans (h.agree q hq)
    · exact absurd (h.lasting q (hq.1 hplace)) hne
  lasting q hq := hedited.directory (h.lasting q hq)
  made q hq := by
    rcases hedited q with hsame | ⟨hplace, -⟩
    · exact h.made q (hsame.symm.trans hq)
    · exact .inr hplace
  directories := h.directories
  unmade := h.unmade
  vacant names haside hfile := (hedited.entry?_eq haside.apart).trans (h.vacant names haside hfile)

/-! ## What others change -/

/-- What saving makes is on the path of the config file. -/
theorem sameDirectories (h : Mirrors path file t₀ t t' sets) {p : Path}
    (hp : ConfigFile.Foreign path t₀ p) : t.SameDirectories (· ∈ p.places) t' := by
  intro q hq
  by_cases hold : t₀.entry? q = some .directory
  · rw [h.agree q (hp.kept hq hold)]
  · refine ⟨fun hdirectory => ?_, fun hdirectory => absurd ((h.directories q).mp hdirectory) hold⟩
    have hplace := (h.made q hdirectory).resolve_left hold
    have hother : q ∉ (Path.ofString path).places := fun hmem => hold (hp q hq hmem)
    obtain ⟨c, hserves, -, -⟩ := h.serves
    exact absurd hdirectory (hserves.replaceable.ne_directory (hplace.resolve_left hother) hother)

/-- The config file serves as long as others leave its path alone. -/
theorem serves_apply (h : Mirrors path file t₀ t t' sets) (c : Terminal.Change)
    (hsame : t.Agrees (· ∈ (Path.ofString path).places) (c.apply t)) :
    ∃ config : Config, ConfigFile.Serves path (c.apply t) config ∧ config.Exact ∧ config.sets = sets := by
  obtain ⟨config, hserves, hexact, hsets⟩ := h.serves
  refine ⟨config, hserves.elsewhere hsame fun q hq hother => ?_, hexact, hsets⟩
  rw [ne_eq, c.apply_directory]
  exact hserves.replaceable.ne_directory hq hother

theorem change_foreign (h : Mirrors path file t₀ t t' sets) {c : Terminal.Change}
    (hc : ConfigFile.Foreign path t₀ c.path) :
    Mirrors path file t₀ (c.apply t) (c.apply t') sets where
  begun := h.begun
  serves := by
    refine h.serves_apply c fun q hq => ?_
    rcases c.edited_apply t q with hsame | ⟨hmem, hne⟩
    · exact hsame.symm
    · exact absurd (h.lasting q (hc q hmem hq)) hne
  agree := c.apply_agrees h.agree (h.sameDirectories hc)
  lasting q hq := (c.apply_directory t q).mpr (h.lasting q hq)
  made q hq := h.made q ((c.apply_directory t q).mp hq)
  directories q := (c.apply_directory t' q).trans (h.directories q)
  unmade q hq hnone := by
    rcases c.edited_apply t' q with hsame | ⟨hmem, -⟩
    · exact hsame.trans (h.unmade q hq hnone)
    · cases hnone.symm.trans (hc q hmem hq)
  vacant names haside hfile := by
    rcases c.edited_apply t names with hsame | ⟨hmem, -⟩
    · exact hsame.trans (h.vacant names haside hfile)
    · exact absurd hmem (haside.not_mem_places hc)

/-- In a directory that is made for the config file, others change what the path names there at most. -/
theorem edited_apply_aside (h : Mirrors path file t₀ t t' sets) {c : Terminal.Change}
    (haside : ConfigFile.Aside path t₀ names) (hnames : names <+: c.path.names) :
    t.Edited (· = names) (c.apply t) := by
  obtain ⟨rest, hsplit⟩ := hnames
  rcases c.edited_apply_at t with hsame | ⟨q, e, hlocate, -, hedited⟩
  · rw [hsame]
    exact .refl _ t
  · have hwalk := Tree.walk_of_locate hlocate
    rw [← hsplit] at hwalk
    by_cases hrest : rest = []
    · subst hrest
      rw [List.append_nil] at hwalk
      have hq : q = names := Tree.names_eq_of_walk (fun hback => (haside.nameable _ hback).2.1 rfl)
        (fun hdot => (haside.nameable _ hdot).1 rfl) hwalk
      exact hq ▸ hedited
    · have hdirectory := Tree.directory_of_walk_append haside.nameable hrest hwalk
      rcases h.made names hdirectory with hold | hplace
      · cases haside.vacant.symm.trans hold
      · exact absurd hplace haside.apart

/-- Without the config file there is no such directory. -/
theorem apply_aside (h : Mirrors path file t₀ t t' sets) {c : Terminal.Change}
    (haside : ConfigFile.Aside path t₀ names) (hnames : names <+: c.path.names) : c.apply t' = t' := by
  refine (c.edited_apply_at t').resolve_right ?_
  rintro ⟨q, e, hlocate, -⟩
  obtain ⟨rest, hsplit⟩ := hnames
  obtain ⟨parent, d, name, hparent, hd, hnone, rfl⟩ := haside.below
  have hnameable : Tree.Nameable d := fun name hname =>
    haside.nameable name (List.mem_append_left _ hname)
  have hwalk := Tree.walk_of_locate hlocate
  rw [← hsplit, List.append_assoc] at hwalk
  have hdirectory := Tree.directory_of_walk_append hnameable (by simp) hwalk
  cases (h.unmade d (ConfigFile.places_parent_subset hparent hd) hnone).symm.trans hdirectory

theorem change_aside (h : Mirrors path file t₀ t t' sets) {c : Terminal.Change}
    (haside : ConfigFile.Aside path t₀ names) (hnames : names <+: c.path.names)
    (hother : ¬ names <+: (Path.ofString file).names) :
    Mirrors path file t₀ (c.apply t) (c.apply t') sets := by
  have hedited := h.edited_apply_aside haside hnames
  rw [h.apply_aside haside hnames]
  exact {
    begun := h.begun
    serves := h.serves_apply c fun q hq =>
      (hedited.entry?_eq fun hsame => haside.apart (.inl (hsame ▸ hq))).symm
    agree := fun q hq =>
      (hedited.entry?_eq fun hsame => haside.not_kept (hsame ▸ hq)).trans (h.agree q hq)
    lasting := fun q hq => hedited.directory (h.lasting q hq)
    made := fun q hq => h.made q ((c.apply_directory t q).mp hq)
    directories := h.directories
    unmade := h.unmade
    vacant := fun q hq hfile =>
      (hedited.entry?_eq fun hsame => hother (hsame ▸ hfile)).trans (h.vacant q hq hfile) }

theorem changes (h : Mirrors path file t₀ t t' sets) {changes : List Terminal.Change}
    (hchanges : ∀ c ∈ changes, ConfigFile.Harmless path file t₀ c.path) :
    Mirrors path file t₀ (changes.foldl Terminal.Change.apply t)
      (changes.foldl Terminal.Change.apply t') sets := by
  induction changes generalizing t t' with
  | nil => exact h
  | cons c rest ih =>
    refine ih ?_ fun c hc => hchanges c (List.mem_cons_of_mem _ hc)
    rcases hchanges c List.mem_cons_self with hforeign | ⟨names, haside, hnames, hother⟩
    · exact h.change_foreign hforeign
    · exact h.change_aside haside hnames hother

/-! ## What is shown -/

/-- The file that is shown is the same for both sessions. -/
theorem read_eq (h : Mirrors path file t₀ t t' sets) (hfile : ConfigFile.Shows path file t₀) :
    t.read (Path.ofString file) = t'.read (Path.ofString file) := by
  rcases hfile with huntouched | ⟨names, haside, hnames⟩
  · rw [Tree.read, Tree.read, Tree.locate_congr fun q hq =>
      h.agree q (ConfigFile.kept_of_untouched huntouched hq)]
  · have hvacant := h.vacant names haside hnames
    obtain ⟨parent, d, name, hparent, hd, hnone, rfl⟩ := haside.below
    have hunmade := h.unmade d (ConfigFile.places_parent_subset hparent hd) hnone
    have hon : ∀ q, q <+: d → q = [] ∨ q ∈ parent.places := fun q hq =>
      (Tree.mem_placesFrom_of_isPrefix hd hq).symm.imp_left List.prefix_nil.mp
    obtain ⟨c, hserves, -, -⟩ := h.serves
    have habove : ∀ q, q <+: d → t.entry? q = none ∨ t.entry? q = some .directory := by
      intro q hq
      rcases hon q hq with rfl | hq
      · exact .inr rfl
      · exact hserves.replaceable.above hparent hq
    have habove' : ∀ q, q <+: d → t'.entry? q = none ∨ t'.entry? q = some .directory := by
      intro q hq
      rcases hon q hq with rfl | hq
      · exact .inr rfl
      · exact (h.begun.above hparent hq).imp (h.unmade q (ConfigFile.places_parent_subset hparent hq))
          (h.directories q).mpr
    have hnameable : Tree.Nameable d := fun name hname =>
      haside.nameable name (List.mem_append_left _ hname)
    rw [Tree.read_of_missing hnameable habove' hunmade ((List.prefix_append d [name]).trans hnames)]
    refine Tree.read_of_missing haside.nameable (fun q hq => ?_) hvacant hnames
    rcases List.prefix_concat_iff.mp hq with rfl | hq
    · exact .inl hvacant
    · exact habove q hq

end Mirrors

end AnchorOutline
