import AnchorOutline.Proofs.Sets.Replacing
import AnchorOutline.Proofs.Sets.RoundTrip

/-!
# Stores that work

A config file that can be read and replaced once can be read and replaced for good: what was put there
is what is read the next time. So the store in such a file is as good as a list in memory, as long as
no number of the file is a double.

* `ConfigFile.asksOnly_replace`, `ConfigFile.asksOnly_putSets_of` : the calls by which a file is replaced;
* `ConfigFile.Place` : the places that the store in a file has to do with;
* `ConfigFile.Serves` : a file that gives a config and can be replaced;
* `ConfigFile.Serves.replace` : it still does after it was replaced, and gives the new config;
* `ConfigFile.given_of_putSets` : where its sets were replaced, the file has all else that it gave;
* `SetStore.Works` : a store that has a list of sets, and works;
* `SetStore.Works.get`, `SetStore.Works.put` : it gives this list, and takes any other.
-/

namespace AnchorOutline

theorem fileText_toUTF8 (text : String) : fileText (.ok text.toUTF8) = .ok text := by
  have hvalid : text.toUTF8.IsValidUTF8 := text.isValidUTF8
  have htext : String.fromUTF8? text.toUTF8 = some text := dif_pos hvalid
  simp only [fileText, htext]

namespace Action

variable {p : Path}

theorem asksOnly_readText {P : SystemCall → Prop} (h : P (.read p)) : (readText p).AsksOnly P := by
  refine .bind ⟨h, fun _ => trivial⟩ fun answer => ?_
  cases answer with
  | error e => trivial
  | ok bytes =>
    dsimp only
    split <;> trivial

theorem reads_readText {W : List String → Prop} (h : ∀ q ∈ p.places, W q) : (readText p).Reads W :=
  asksOnly_readText ⟨rfl, h⟩

end Action

namespace ConfigFile

variable {path text : String} {p : Path} {t t' : Tree} {c : Config}

/-! ## Calls -/

section

variable {P : SystemCall → Prop}

theorem asksOnly_makeParent
    (hparent : ∀ parent, p.parent? = some parent → P (.createDirs parent)) :
    (makeParent p).AsksOnly P := by
  rw [makeParent]
  split
  next parent heq => exact ⟨hparent parent heq, fun _ => trivial⟩
  next => trivial

theorem asksOnly_replace
    (hparent : ∀ parent, p.parent? = some parent → P (.createDirs parent))
    (hwrite : ∀ bytes, P (.write (beside p) bytes)) (hrename : P (.rename (beside p) p))
    (hremove : P (.remove (beside p))) (text : String) : (replace p text).AsksOnly P := by
  refine .bind (asksOnly_makeParent hparent) fun made => ?_
  cases made with
  | error e => trivial
  | ok made =>
    refine .bind ⟨hwrite _, fun _ => trivial⟩ fun written => ?_
    cases written with
    | error e => trivial
    | ok written =>
      refine .bind ⟨hrename, fun _ => trivial⟩ fun moved => ?_
      cases moved with
      | ok moved => trivial
      | error e => exact .bind ⟨hremove, fun _ => trivial⟩ fun _ => trivial

theorem asksOnly_putSets_of (hread : (read path).AsksOnly P)
    (hreplace : ∀ text, (replace (Path.ofString path) text).AsksOnly P)
    (hlog : ∀ record, P (.log record)) (sets : List PatternSet) : (putSets path sets).AsksOnly P := by
  refine .bind hread fun config => ?_
  cases config with
  | error e => trivial
  | ok config =>
    refine .bind (hreplace _) fun replaced => ?_
    cases replaced with
    | error e => trivial
    | ok replaced => exact ⟨hlog _, fun _ => trivial⟩

end

/-! ## Places -/

/-- The places that reading and replacing the file at a path have to do with. -/
def Place (p : Path) (q : List String) : Prop := q ∈ p.places ∨ q ∈ (beside p).places

theorem places_parent_subset {parent : Path} (h : p.parent? = some parent) :
    parent.places ⊆ p.places := by
  rw [Path.parent?] at h
  split at h
  next hnames =>
    split at h
    next => cases h
    next =>
      cases h
      simp [Path.places, Tree.placesFrom]
  next hnames =>
    cases h
    have hsplit := Tree.placesFrom_subset_append [] p.names.dropLast [p.names.getLast hnames]
    rwa [List.dropLast_concat_getLast hnames] at hsplit

theorem reads_read (path : String) : (read path).Reads (Place (Path.ofString path)) := by
  refine .bind (Action.reads_readText fun q hq => .inl hq) fun text => ?_
  cases text with
  | ok text => trivial
  | error e =>
    cases e with
    | notFound => exact ⟨⟨rfl, fun q hq => (by cases hq)⟩, fun _ => trivial⟩
    | _ => trivial

theorem within_replace (p : Path) (text : String) : (replace p text).Within (Place p) :=
  asksOnly_replace (fun _ hparent _ hq => .inl (places_parent_subset hparent hq))
    (fun _ _ hq => .inr hq) (fun _ hq => (List.mem_append.mp hq).symm) (fun _ hq => .inr hq) text

theorem within_putSets (path : String) (sets : List PatternSet) :
    (putSets path sets).Within (Place (Path.ofString path)) :=
  asksOnly_putSets_of (reads_read path).within (within_replace _) (fun _ _ hq => by cases hq) sets

theorem given_congr (h : t.Agrees (· ∈ (Path.ofString path).places) t') :
    given path t = given path t' := by
  rw [given, given, Tree.read, Tree.read, Tree.locate_congr h]

/-! ## Replacing -/

/-- Whatever the new text is, it can be put into the place of the file. -/
def Replaceable (p : Path) (t : Tree) : Prop :=
  ∀ text, ((⟨t, []⟩ : Machine).run (replace p text)).1 = .ok ()

theorem run_write (m : Machine) (p : Path) (bytes : ByteArray) :
    m.run (Action.write p bytes) = m.settle (m.tree.write p bytes) := rfl

theorem run_rename (m : Machine) (source target : Path) :
    m.run (Action.rename source target) = m.settle (m.tree.rename source target) := rfl

/-- The trees on the way when a file is replaced: with the directories above it, with the new text
beside it, and with the new text in its place. -/
structure Steps (p : Path) (text : String) (t t₁ t₂ t₃ : Tree) : Prop where
  parent : ∀ parent, p.parent? = some parent → t.createDirs parent = .ok t₁
  write : t₁.write (beside p) text.toUTF8 = .ok t₂
  rename : t₂.rename (beside p) p = .ok t₃

theorem createDirs_of_makeParent (h : Action.MayRun (makeParent p) t (some (.ok ())) t')
    {parent : Path} (hparent : p.parent? = some parent) : t.createDirs parent = .ok t' := by
  rw [makeParent, hparent] at h
  obtain ⟨answer, hanswer, hgoes⟩ := h.of_query.resolve_right (by simp)
  cases hanswer
  exact hgoes.createDirs_eq_ok

/-- A file that is said to be replaced was replaced in these steps, whatever might have failed. -/
theorem steps_of_mayRun (h : Action.MayRun (replace p text) t (some (.ok ())) t') :
    ∃ t₁ t₂, Steps p text t t₁ t₂ t' := by
  rw [replace] at h
  obtain ⟨made, t₁, hmake, hrest⟩ := h.of_bind.resolve_right (by simp)
  cases made with
  | error e => cases hrest.of_pure.1
  | ok made =>
    dsimp only at hrest
    obtain ⟨written, t₂, hwrite, hrest⟩ := hrest.of_bind.resolve_right (by simp)
    obtain ⟨_, hanswer, hgoes⟩ := hwrite.of_query.resolve_right (by simp)
    cases hanswer
    rcases hgoes.write with ⟨rfl, hwritten⟩ | ⟨⟨e, rfl⟩, -⟩
    · dsimp only at hrest
      obtain ⟨moved, t₃, hmove, hrest⟩ := hrest.of_bind.resolve_right (by simp)
      obtain ⟨_, hanswer, hgoes⟩ := hmove.of_query.resolve_right (by simp)
      cases hanswer
      rcases hgoes.rename with ⟨rfl, hmoved⟩ | ⟨⟨e, rfl⟩, -⟩
      · obtain ⟨-, rfl⟩ := hrest.of_pure
        exact ⟨t₁, t₂, fun parent => createDirs_of_makeParent hmake, hwritten, hmoved⟩
      · obtain ⟨_, t₄, -, hlast⟩ := hrest.of_bind.resolve_right (by simp)
        cases hlast.of_pure.1
    · cases hrest.of_pure.1

theorem steps_of_replace {m : Machine} (h : (m.run (replace p text)).1 = .ok ()) :
    ∃ t₁ t₂, Steps p text m.tree t₁ t₂ (m.run (replace p text)).2.tree := by
  have hrun := Action.mayRun_run (replace p text) m
  rw [h] at hrun
  exact steps_of_mayRun hrun

/-- A file that nothing keeps from being replaced: the directories above it are there, and neither it
nor the file beside it is a directory. -/
structure Ready (p : Path) (t : Tree) : Prop where
  parent : ∀ parent, p.parent? = some parent → t.createDirs parent = .ok t
  besideLocated : ∃ old e, t.locate (beside p) = .ok (old, e) ∧ e ≠ some .directory
  besideEnding : (beside p).ending ≠ .slash
  located : ∃ new e, t.locate p = .ok (new, e) ∧ e ≠ some .directory
  ending : p.ending ≠ .slash

/-- Once it was replaced, the file has the new text, and nothing keeps it from being replaced. -/
theorem Steps.ready {t₁ t₂ t₃ : Tree} (h : Steps p text t t₁ t₂ t₃) :
    t₃.read p = .ok text.toUTF8 ∧ Ready p t₃ := by
  have hmade : t₁.Edited (fun _ => True) t₂ := (Tree.edited_write h.write).mono fun _ _ => trivial
  have hmoved : t₂.Edited (fun _ => True) t₃ := (Tree.edited_rename h.rename).mono fun _ _ => trivial
  obtain ⟨names, e, hwrite, hne, hbeside, rfl⟩ := Tree.write_eq_ok.mp h.write
  obtain ⟨old, bytes, new, e', hsource, htarget, hne', -, hending, rfl⟩ :=
    Tree.rename_eq_ok.mp h.rename
  obtain ⟨hroot, -, -⟩ := Tree.mem_places_of_locate hwrite hne
  obtain ⟨hroot', -, -⟩ := Tree.mem_places_of_locate htarget hne'
  have hwritten := Tree.locate_of_edited hmade hwrite
  rw [if_neg hne, Tree.entry?_put_self hroot, hsource] at hwritten
  cases hwritten
  have hlocated := Tree.locate_of_edited hmoved htarget
  rw [if_neg hne', Tree.entry?_put_self hroot'] at hlocated
  have hfree := Tree.locate_of_edited (hmade.trans hmoved) hwrite
  rw [if_neg hne] at hfree
  refine ⟨?_, ?_, ⟨_, _, hfree, ?_⟩, hbeside, ⟨_, _, hlocated, by simp⟩, hending⟩
  · rw [Tree.read, hlocated]
    exact if_neg hending
  · exact fun parent hparent => Tree.createDirs_again (h.parent parent hparent) (hmade.trans hmoved)
  · by_cases hsame : names = new
    · rw [hsame, Tree.entry?_put_self hroot']
      simp
    · rw [Tree.entry?_put_of_ne hsame, Tree.entry?_erase_self hroot]
      simp

theorem run_makeParent {parent : Path} {t₁ : Tree} (hparent : p.parent? = some parent)
    (h : t.createDirs parent = .ok t₁) (log : List LogRecord) :
    (⟨t, log⟩ : Machine).run (makeParent p) = (.ok (), ⟨t₁, log⟩) := by
  rw [makeParent, hparent]
  show Machine.answer (.createDirs parent) ⟨t, log⟩ = _
  rw [Machine.answer, h]
  rfl

theorem Ready.run_makeParent (h : Ready p t) (log : List LogRecord) :
    (⟨t, log⟩ : Machine).run (makeParent p) = (.ok (), ⟨t, log⟩) := by
  cases hparent : p.parent? with
  | some parent => exact ConfigFile.run_makeParent hparent (h.parent parent hparent) log
  | none =>
    rw [makeParent, hparent]
    rfl

theorem Ready.replaceable (h : Ready p t) : Replaceable p t := by
  intro text
  obtain ⟨old, e, hbeside, hne⟩ := h.besideLocated
  obtain ⟨new, e', hlocated, hne'⟩ := h.located
  have hwrite : t.write (beside p) text.toUTF8 = .ok (t.put old (.file text.toUTF8)) :=
    Tree.write_eq_ok.mpr ⟨old, e, hbeside, hne, h.besideEnding, rfl⟩
  have hedited := Tree.edited_write hwrite
  obtain ⟨hroot, -, -⟩ := Tree.mem_places_of_locate hbeside hne
  have hsource := Tree.locate_of_edited hedited hbeside
  rw [if_neg hne, Tree.entry?_put_self hroot] at hsource
  have htarget := Tree.locate_of_edited hedited hlocated
  rw [if_neg hne'] at htarget
  have hfree : Tree.entry? (t.put old (.file text.toUTF8)) new ≠ some .directory := by
    obtain ⟨-, -, he'⟩ := Tree.mem_places_of_locate hlocated hne'
    by_cases hsame : new = old
    · rw [hsame, Tree.entry?_put_self hroot]
      simp
    · rw [Tree.entry?_put_of_ne hsame, ← he']
      exact hne'
  have hrename := Tree.rename_eq_ok.mpr
    ⟨old, text.toUTF8, new, _, hsource, htarget, hfree, h.besideEnding, h.ending, rfl⟩
  rw [replace, Machine.run_bind, h.run_makeParent]
  dsimp only
  rw [Machine.run_bind, run_write, ← beside, hwrite, Machine.settle]
  dsimp only
  rw [Machine.run_bind, run_rename, hrename]
  rfl

/-! ## Others -/

theorem Steps.named {t₁ t₂ t₃ : Tree} (h : Steps p text t t₁ t₂ t₃) :
    ∃ above name, p.Named (beside p) above name := by
  obtain ⟨-, -, new, e, -, htarget, hne, -⟩ := Tree.rename_eq_ok.mp h.rename
  have hnames : p.names ≠ [] := by
    intro hnames
    obtain ⟨-, hnew, -⟩ := Tree.mem_places_of_locate htarget hne
    rw [Path.places, hnames] at hnew
    cases hnew
  refine Path.named_of_names hnames fun hback => hne ?_
  have hwalk := Tree.walk_of_locate htarget
  obtain ⟨above, hsplit⟩ := List.getLast?_eq_some_iff.mp hback
  rw [hsplit] at hwalk
  obtain ⟨d, -, hback⟩ := Tree.of_walk_append (by simp) hwalk
  cases hback
  rfl

/-- The path of a file does not look at the place beside the file, and the path to that place looks at
nothing else that it does not look at. -/
theorem beside_places {above : List String} {name : String} {old : List String} {e : Option Entry}
    (hnamed : p.Named (beside p) above name) (hlocate : t.locate (beside p) = .ok (old, e))
    (hne : e ≠ some .directory) :
    old ∉ p.places ∧ ∀ q ∈ (beside p).places, q ∈ p.places ∨ q = old := by
  have hdot : Path.besideName name ≠ "." := Path.besideName_ne_of_short (by decide)
  have hdots : Path.besideName name ≠ ".." := Path.besideName_ne_of_short (by decide)
  have hwalk := Tree.walk_of_locate hlocate
  rw [hnamed.besidePath] at hwalk
  obtain ⟨d, habove, hlast⟩ := Tree.of_walk_append (by simp) hwalk
  obtain ⟨hdirectories, hplaces⟩ := Tree.placesFrom_append habove [name]
  obtain ⟨-, hbeside⟩ := Tree.placesFrom_append habove [Path.besideName name]
  have hdone : Tree.placesFrom d [Path.besideName name] = [d ++ [Path.besideName name]] :=
    Tree.placesFrom_cons hdot hdots []
  obtain ⟨-, hold, he⟩ := (Tree.eq_of_walk hlast).resolve_left hne
  rw [hdone, List.mem_singleton] at hold
  rw [Path.places, hnamed.names, hplaces, hnamed.besidePath, Path.places, hbeside, hdone]
  refine ⟨fun hmem => ?_, fun q hq => ?_⟩
  · rcases List.mem_append.mp hmem with hmem | hmem
    · exact hne (he.trans (hdirectories old hmem))
    · by_cases hname : name = "."
      · subst hname
        cases hmem
      · rw [Tree.placesFrom_cons hname hnamed.back, hold] at hmem
        exact Path.besideName_ne name (by simpa [Tree.placesFrom] using hmem)
  · rcases List.mem_append.mp hq with hq | hq
    · exact .inl (List.mem_append_left _ hq)
    · exact .inr ((List.mem_singleton.mp hq).trans hold.symm)

/-- No place of the path beside a file is a directory, but those above the file. -/
theorem Replaceable.ne_directory (h : Replaceable p t) {q : List String}
    (hq : q ∈ (beside p).places) (hother : q ∉ p.places) : t.entry? q ≠ some .directory := by
  obtain ⟨t₁, t₂, hsteps⟩ := steps_of_replace (h "")
  obtain ⟨above, name, hnamed⟩ := hsteps.named
  obtain ⟨old, e, hlocate, hne, -, -⟩ := Tree.write_eq_ok.mp hsteps.write
  obtain ⟨ending, hparent⟩ := hnamed.parent_eq
  obtain ⟨-, hbeside⟩ := beside_places hnamed hlocate hne
  obtain rfl := (hbeside q hq).resolve_left hother
  obtain ⟨-, -, he⟩ := Tree.mem_places_of_locate hlocate hne
  have hgrown := Tree.grown_createDirs t ⟨p.absolute, above, ending⟩
  rw [hsteps.parent _ hparent] at hgrown
  have hsame : t₁.entry? q = t.entry? q :=
    (hgrown q).resolve_right fun hmade => hother (places_parent_subset hparent hmade.1)
  rw [← hsame, ← he]
  exact hne

/-- Above a file that can be replaced there are directories, or nothing. -/
theorem Replaceable.above (h : Replaceable p t) {parent : Path} (hparent : p.parent? = some parent)
    {q : List String} (hq : q ∈ parent.places) : t.entry? q = none ∨ t.entry? q = some .directory := by
  obtain ⟨t₁, t₂, hsteps⟩ := steps_of_replace (h "")
  obtain ⟨above, name, hnamed⟩ := hsteps.named
  obtain ⟨ending, hparent'⟩ := hnamed.parent_eq
  obtain rfl : parent = ⟨p.absolute, above, ending⟩ := Option.some.inj (hparent.symm.trans hparent')
  obtain ⟨old, e, hlocate, hne, -, -⟩ := Tree.write_eq_ok.mp hsteps.write
  have hwalk := Tree.walk_of_locate hlocate
  rw [hnamed.besidePath] at hwalk
  obtain ⟨d, habove, -⟩ := Tree.of_walk_append (by simp) hwalk
  have hdirectory := (Tree.placesFrom_append habove []).1 q hq
  have hgrown := Tree.grown_createDirs t ⟨p.absolute, above, ending⟩
  rw [hsteps.parent _ hparent] at hgrown
  rcases hgrown q with hsame | ⟨-, hnone, -⟩
  · exact .inr (hsame.symm.trans hdirectory)
  · exact .inl hnone

/-- Where the directories above a file are as they are when it is replaced, and there is none beside
it, nothing keeps it from being replaced. -/
theorem Steps.ready_elsewhere {t₁ t₂ t₃ : Tree} (h : Steps p text t t₁ t₂ t₃)
    (hagree : t₁.Agrees (· ∈ p.places) t')
    (hparent : ∀ parent, p.parent? = some parent → t'.createDirs parent = .ok t')
    (hbeside : ∀ q ∈ (ConfigFile.beside p).places, q ∉ p.places → t'.entry? q ≠ some .directory) :
    Ready p t' := by
  obtain ⟨above, name, hnamed⟩ := h.named
  obtain ⟨old, e, hlocate, hne, hending, hwritten⟩ := Tree.write_eq_ok.mp h.write
  obtain ⟨-, -, new, e', -, htarget, hne', -, hslash, -⟩ := Tree.rename_eq_ok.mp h.rename
  obtain ⟨hold, hplaces⟩ := beside_places hnamed hlocate hne
  obtain ⟨-, hmem, he⟩ := Tree.mem_places_of_locate hlocate hne
  have hdirectories : ∀ q ∈ (ConfigFile.beside p).places, t₁.entry? q = some .directory →
      t'.entry? q = some .directory := by
    intro q hq hdirectory
    rcases hplaces q hq with hq | rfl
    · rw [← hagree q hq, hdirectory]
    · exact absurd (he.trans hdirectory) hne
  have hlocate' := Tree.locate_of_directories hdirectories hlocate
  rw [if_neg hne] at hlocate'
  have htarget' : t'.locate p = t₂.locate p := by
    refine Tree.locate_congr fun q hq => ?_
    rw [← hagree q hq, hwritten, Tree.entry?_put_of_ne]
    rintro rfl
    exact hold hq
  exact ⟨hparent, ⟨old, _, hlocate', hbeside old hmem hold⟩, hending, ⟨new, e', htarget'.trans htarget,
    hne'⟩, hslash⟩

/-- Whatever is done away from a file, it can be replaced, as long as no directory is made beside
it. -/
theorem Replaceable.elsewhere (h : Replaceable p t) (hagree : t.Agrees (· ∈ p.places) t')
    (hbeside : ∀ q ∈ (ConfigFile.beside p).places, q ∉ p.places → t'.entry? q ≠ some .directory) :
    Replaceable p t' := by
  obtain ⟨t₁, t₂, hsteps⟩ := steps_of_replace (h "")
  obtain ⟨above, name, hnamed⟩ := hsteps.named
  obtain ⟨ending, hparent⟩ := hnamed.parent_eq
  obtain ⟨t₁', hmade, hsame⟩ : ∃ t₁', t'.createDirs ⟨p.absolute, above, ending⟩ = .ok t₁' ∧
      t₁.Agrees (· ∈ p.places) t₁' := by
    have halike := Tree.createDirs_alike hagree fun q hq => places_parent_subset hparent hq
    rw [hsteps.parent _ hparent] at halike
    generalize t'.createDirs _ = made at halike
    cases halike with
    | ok hsame => exact ⟨_, rfl, hsame⟩
  have hgrown := Tree.grown_createDirs t' ⟨p.absolute, above, ending⟩
  rw [hmade] at hgrown
  have hready : Ready p t₁' := by
    refine hsteps.ready_elsewhere hsame (fun parent hparent' => ?_) fun q hq hother => ?_
    · cases hparent.symm.trans hparent'
      exact Tree.createDirs_again hmade (.refl (fun _ => True) t₁')
    · have hkept : t₁'.entry? q = t'.entry? q :=
        (hgrown q).resolve_right fun hmade => hother (places_parent_subset hparent hmade.1)
      rw [hkept]
      exact hbeside q hq hother
  intro text
  have hdone := hready.replaceable text
  rw [replace, Machine.run_bind, hready.run_makeParent] at hdone
  rwa [replace, Machine.run_bind, run_makeParent hparent hmade]

/-! ## Serving -/

/-- The file at a path gives a config, and can be replaced. -/
structure Serves (path : String) (t : Tree) (c : Config) : Prop where
  given : given path t = .ok c
  replaceable : Replaceable (Path.ofString path) t

/-- Whatever is done away from the file, it still gives its config and can be replaced, as long as no
directory is made beside it. -/
theorem Serves.elsewhere (h : Serves path t c)
    (hagree : t.Agrees (· ∈ (Path.ofString path).places) t')
    (hbeside : ∀ q ∈ (beside (Path.ofString path)).places, q ∉ (Path.ofString path).places →
      t'.entry? q ≠ some .directory) : Serves path t' c :=
  ⟨(given_congr hagree).symm.trans h.given, h.replaceable.elsewhere hagree hbeside⟩

theorem given_of_read (hread : t.read (Path.ofString path) = .ok c.text.toUTF8) (hplain : c.Plain) :
    given path t = .ok c := by
  rw [ConfigFile.given, hread, fileText_toUTF8, configOf, parse, Config.parse_text hplain]
  rfl

theorem Replaceable.run_replace {m : Machine} (h : Replaceable p m.tree) (text : String) :
    (m.run (replace p text)).1 = .ok () := by
  have hsame : (⟨m.tree, []⟩ : Machine).tree.Agrees (Place p) m.tree := fun _ _ => rfl
  exact (Machine.run_congr (within_replace p text) hsame).1.symm.trans (h text)

theorem Serves.replace {m : Machine} (h : Serves path m.tree c) {c' : Config} (hplain : c'.Plain) :
    (m.run (ConfigFile.replace (Path.ofString path) c'.text)).1 = .ok () ∧
      Serves path (m.run (ConfigFile.replace (Path.ofString path) c'.text)).2.tree c' := by
  have hdone := h.replaceable.run_replace c'.text
  obtain ⟨t₁, t₂, hsteps⟩ := steps_of_replace hdone
  obtain ⟨hread, hready⟩ := hsteps.ready
  exact ⟨hdone, given_of_read hread hplain, hready.replaceable⟩

/-- A file gives a plain config or one with doubles. -/
theorem plain_of_given (hgiven : given path t = .ok c) (hexact : c.Exact) : c.Plain := by
  rw [ConfigFile.given] at hgiven
  cases htext : fileText (t.read (Path.ofString path)) with
  | ok text =>
    rw [htext, configOf, parse] at hgiven
    cases hparse : Config.parse text with
    | error e =>
      rw [hparse] at hgiven
      cases hgiven
    | ok c' =>
      rw [hparse] at hgiven
      cases hgiven
      exact Config.plain_of_parse hparse hexact
  | error e =>
    rw [htext] at hgiven
    cases e with
    | notFound =>
      cases hgiven
      exact Config.plain_empty
    | _ => cases hgiven

theorem Serves.plain (h : Serves path t c) (hexact : c.Exact) : c.Plain :=
  plain_of_given h.given hexact

theorem Serves.run_sets {m : Machine} (h : Serves path m.tree c) :
    (m.run (sets path)).1 = .ok c.sets ∧ (m.run (sets path)).2.tree = m.tree := by
  obtain ⟨hresult, htree⟩ := run_read path m
  rw [sets, Machine.run_bind, hresult, h.given]
  exact ⟨rfl, htree⟩

theorem Serves.run_putSets {m : Machine} (h : Serves path m.tree c) (hexact : c.Exact)
    (sets : List PatternSet) : (m.run (putSets path sets)).1 = .ok () ∧
      Serves path (m.run (putSets path sets)).2.tree { c with sets := sets } := by
  obtain ⟨hresult, htree⟩ := run_read path m
  have hserves : Serves path (m.run (read path)).2.tree c := htree ▸ h
  obtain ⟨hdone, hnew⟩ := hserves.replace ((h.plain hexact).withSets sets)
  rw [putSets, Machine.run_bind, hresult, h.given]
  dsimp only
  rw [Machine.run_bind, hdone]
  exact ⟨rfl, hnew⟩

/-- Sets that are said to be replaced were replaced in what the file gave. -/
theorem steps_of_mayRun_putSets {sets : List PatternSet}
    (h : Action.MayRun (putSets path sets) t (some (.ok ())) t') :
    ∃ c t₁ t₂, given path t = .ok c ∧
      Steps (Path.ofString path) (Config.text { c with sets := sets }) t t₁ t₂ t' := by
  rw [putSets] at h
  obtain ⟨result, t₁, hread, hrest⟩ := h.of_bind.resolve_right (by simp)
  obtain ⟨rfl, hgiven⟩ := mayRun_read hread
  cases result with
  | error e => cases hrest.of_pure.1
  | ok c =>
    dsimp only at hrest
    obtain ⟨replaced, t₂, hreplace, hlast⟩ := hrest.of_bind.resolve_right (by simp)
    cases replaced with
    | error e => cases hlast.of_pure.1
    | ok replaced =>
      obtain ⟨_, t₃, hlog, hdone⟩ := hlast.of_bind.resolve_right (by simp)
      obtain ⟨_, -, hgoes⟩ := hlog.of_query.resolve_right (by simp)
      obtain rfl := hgoes.log
      obtain ⟨-, rfl⟩ := hdone.of_pure
      obtain ⟨u₁, u₂, hsteps⟩ := steps_of_mayRun hreplace
      exact ⟨c, u₁, u₂, hgiven c rfl, hsteps⟩

/-- Where the sets were replaced, the file has all else that it gave before. -/
theorem given_of_putSets {m : Machine} {sets : List PatternSet}
    (h : (m.run (putSets path sets)).1 = .ok ()) :
    ∃ c, given path m.tree = .ok c ∧ (m.run (putSets path sets)).2.tree.read (Path.ofString path) =
      .ok (Config.text { c with sets := sets }).toUTF8 := by
  have hrun := Action.mayRun_run (putSets path sets) m
  rw [h] at hrun
  obtain ⟨c, t₁, t₂, hgiven, hsteps⟩ := steps_of_mayRun_putSets hrun
  exact ⟨c, hgiven, hsteps.ready.1⟩

end ConfigFile

/-! ## Stores -/

namespace ConfigFile

theorem run_get (path : String) (m : Machine) : m.run ((SetStore.configFile path).get ()) =
    (((given path m.tree).map Config.sets, ()), (m.run (read path)).2) := by
  rw [SetStore.configFile, Machine.run_bind, sets, Machine.run_bind, (run_read path m).1]
  rfl

theorem run_put (path : String) (sets : List PatternSet) (m : Machine) :
    m.run ((SetStore.configFile path).put sets ()) =
      (((m.run (putSets path sets)).1, ()), (m.run (putSets path sets)).2) := by
  rw [SetStore.configFile, Machine.run_bind]
  rfl

end ConfigFile

/-- A store that has a list of sets and works: a list in memory, or a file that gives these sets, has no
doubles, and can be replaced. -/
inductive SetStore.Works : {σ : Type} → SetStore σ → σ → Tree → List PatternSet → Prop
  | memory (sets : List PatternSet) (t : Tree) : SetStore.Works .memory sets t sets
  | configFile {path : String} {t : Tree} {c : Config} (serves : ConfigFile.Serves path t c)
      (exact : c.Exact) : SetStore.Works (.configFile path) () t c.sets

namespace SetStore.Works

variable {σ : Type} {store : SetStore σ} {s : σ} {m : Machine} {sets : List PatternSet}

theorem get (h : store.Works s m.tree sets) : (m.run (store.get s)).1.1 = .ok sets ∧
    store.Works (m.run (store.get s)).1.2 (m.run (store.get s)).2.tree sets := by
  generalize htree : m.tree = t at h
  cases h with
  | memory => exact ⟨rfl, .memory sets _⟩
  | @configFile path t c serves exact' =>
    subst htree
    obtain ⟨hresult, hsame⟩ := serves.run_sets
    rw [SetStore.configFile, Machine.run_bind]
    exact ⟨hresult, .configFile (hsame ▸ serves) exact'⟩

theorem put (h : store.Works s m.tree sets) (new : List PatternSet) :
    (m.run (store.put new s)).1.1 = .ok () ∧
      store.Works (m.run (store.put new s)).1.2 (m.run (store.put new s)).2.tree new := by
  generalize htree : m.tree = t at h
  cases h with
  | memory => exact ⟨rfl, .memory new _⟩
  | @configFile path t c serves exact' =>
    subst htree
    obtain ⟨hresult, hserves⟩ := serves.run_putSets exact' new
    rw [SetStore.configFile, Machine.run_bind]
    exact ⟨hresult, .configFile hserves exact'⟩

end SetStore.Works

end AnchorOutline
