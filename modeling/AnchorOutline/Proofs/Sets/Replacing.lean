import AnchorOutline.Proofs.Files.Faults
import AnchorOutline.Proofs.Files.Path
import AnchorOutline.Sets.Store

/-!
# Replacing a config file

The new text of a config file is written beside it and then moved into its place. Whatever fails on
the way, and wherever the program is stopped, the file has its old content or all of the new one.

* `ConfigFile.given` : the config that the file at a path gives;
* `ConfigFile.Prepared` : a tree in which nothing but directories above the file and the file beside
  it is new;
* `ConfigFile.ToFile.mayRun_replace` : however replacing goes, it leaves such a tree, or one in which
  also the file is new;
* `ConfigFile.putSets_leaves_old_or_new` : the same for replacing the saved sets.
-/

namespace AnchorOutline

/-! ## Reading -/

def fileText : Except FileError ByteArray → Except FileError String
  | .error e => .error e
  | .ok bytes =>
    match String.fromUTF8? bytes with
    | some text => .ok text
    | none => .error .notText

theorem Machine.run_readText (m : Machine) (p : Path) :
    m.run (Action.readText p) = (fileText (m.tree.read p), m) := by
  rw [Action.readText, run_bind]
  have hread : m.run (Action.read p) = (m.tree.read p, m) := rfl
  rw [hread]
  cases m.tree.read p with
  | error e => rfl
  | ok bytes => cases htext : String.fromUTF8? bytes <;> simp only [fileText, htext] <;> rfl

namespace ConfigFile

variable {p : Path} {path text : String} {t t' t'' : Tree}

/-- The config in what reading a file gives, where nothing is found being the empty one. -/
def configOf (path : String) : Except FileError String → Except StoreError Config
  | .ok text => parse path text
  | .error .notFound => .ok {}
  | .error e => .error (.cannotRead path e)

def given (path : String) (t : Tree) : Except StoreError Config :=
  configOf path (fileText (t.read (Path.ofString path)))

theorem run_read (path : String) (m : Machine) :
    (m.run (read path)).1 = given path m.tree ∧ (m.run (read path)).2.tree = m.tree := by
  rw [read, Machine.run_bind, Machine.run_readText, given]
  cases fileText (m.tree.read (Path.ofString path)) with
  | ok text =>
    rw [Machine.run, Interaction.run_pure, configOf]
    simp
  | error e => cases e <;> exact ⟨rfl, rfl⟩

end ConfigFile

namespace Action

variable {p : Path} {path : String} {t t' : Tree}

/-- A text that is read is the one that is there, and where it is said that there is no file there is
none. -/
theorem of_mayRun_readText {r : Option (Except FileError String)}
    (h : MayRun (Action.readText p) t r t') :
    t' = t ∧ ∀ result, r = some result → result = fileText (t.read p) ∨
      ∃ e, e ≠ .notFound ∧ result = .error e := by
  rw [Action.readText] at h
  rcases h.of_bind with ⟨answer, t₁, hread, hrest⟩ | ⟨rfl, hread⟩
  · obtain ⟨answer', hanswer, hgoes⟩ := hread.of_query.resolve_right (by simp)
    cases hanswer
    obtain ⟨rfl, hanswer⟩ := hgoes.read
    have hresult : MayRun (pure (fileText answer)) t₁ r t' := by
      cases answer with
      | error e => exact hrest
      | ok bytes =>
        rw [fileText]
        cases htext : String.fromUTF8? bytes with
        | none => simpa [htext] using hrest
        | some text => simpa [htext] using hrest
    obtain ⟨rfl, rfl⟩ := hresult.of_pure
    refine ⟨rfl, fun result hresult => ?_⟩
    cases hresult
    rcases hanswer with rfl | ⟨e, he, rfl⟩
    · exact .inl rfl
    · exact .inr ⟨e, he, rfl⟩
  · obtain ⟨_, hnone, _⟩ | ⟨-, hleaves⟩ := hread.of_query
    · cases hnone
    · exact ⟨hleaves, nofun⟩

end Action

namespace ConfigFile

open AnchorOutline.Action

variable {p : Path} {path text : String} {t t' t'' : Tree}

/-- A config that is read is the one that the file gives. -/
theorem mayRun_read {r : Option (Except StoreError Config)} (h : MayRun (read path) t r t') :
    t' = t ∧ ∀ c, r = some (.ok c) → given path t = .ok c := by
  rw [read] at h
  rcases h.of_bind with ⟨result, t₁, htext, hrest⟩ | ⟨rfl, htext⟩
  · obtain ⟨rfl, hresult⟩ := of_mayRun_readText htext
    have hgiven := hresult result rfl
    by_cases hmissing : result = .error .notFound
    · subst hmissing
      dsimp only at hrest
      rcases hrest.of_bind with ⟨⟨⟩, t₂, hlog, hlast⟩ | ⟨rfl, hlog⟩
      · obtain ⟨_, hanswer, hgoes⟩ := hlog.of_query.resolve_right (by simp)
        obtain rfl := hgoes.log
        obtain ⟨rfl, rfl⟩ := hlast.of_pure
        refine ⟨rfl, fun c hc => ?_⟩
        rcases hgiven with htext | ⟨e, he, hfailed⟩
        · rw [given, ← htext]
          exact Option.some.inj hc
        · cases hfailed
          exact absurd rfl he
      · obtain ⟨_, hnone, _⟩ | ⟨-, hleaves⟩ := hlog.of_query
        · cases hnone
        · exact ⟨hleaves, nofun⟩
    · have hpure : MayRun (pure (configOf path result)) t₁ r t' := by
        cases result with
        | ok text => exact hrest
        | error e => cases e <;> first | exact hrest | exact absurd rfl hmissing
      obtain ⟨rfl, rfl⟩ := hpure.of_pure
      refine ⟨rfl, fun c hc => ?_⟩
      rcases hgiven with rfl | ⟨e, he, rfl⟩
      · exact Option.some.inj hc
      · cases e <;> first | exact absurd rfl he | cases hc
  · exact ⟨(of_mayRun_readText htext).1, nofun⟩

/-! ## Replacing -/

/-- The path beside a path, where new text is written first. -/
def beside (p : Path) : Path := p.withExtension "json.tmp"

/-- A tree in which nothing but directories above the file at a path, and the file beside it, is
new. -/
def Prepared (p : Path) (t t' : Tree) : Prop :=
  ∀ q, q ≠ (beside p).names → t'.entry? q = t.entry? q ∨
    t.entry? q = none ∧ t'.entry? q = some .directory ∧ q <+: p.names ∧ q ≠ p.names

structure Replaced (p : Path) (text : String) (t t' : Tree) : Prop where
  file : t'.entry? p.names = some (.file text.toUTF8)
  others : ∀ q, q ≠ (beside p).names → q ≠ p.names → t'.entry? q = t.entry? q ∨
    t.entry? q = none ∧ t'.entry? q = some .directory ∧ q <+: p.names

/-- What replacing a file may leave, and what it may say then. -/
def OldOrNew (p : Path) (text : String) (t t' : Tree) (r : Option (Except FileError Unit)) : Prop :=
  Prepared p t t' ∧ r ≠ some (.ok ()) ∨ Replaced p text t t' ∧ ∀ e, r ≠ some (.error e)

theorem Prepared.edited (h : Prepared p t t') (h' : t'.Edited (· = (beside p).names) t'') :
    Prepared p t t'' := by
  intro q hq
  rw [h'.entry?_eq hq]
  exact h q hq

/-- A path to a file, none of whose names leads back. -/
structure ToFile (p : Path) : Prop where
  straight : p.Straight
  names : p.names ≠ []

theorem ToFile.named (h : ToFile p) : ∃ above name, p.Named (beside p) above name :=
  Path.named_of_names h.names fun hlast => h.straight.back (List.mem_of_getLast? hlast)

theorem ToFile.beside_ne (h : ToFile p) : (beside p).names ≠ p.names := by
  obtain ⟨above, name, hnamed⟩ := h.named
  rw [hnamed.besidePath, hnamed.names]
  simpa using Path.besideName_ne name

theorem ToFile.straight_beside (h : ToFile p) : (beside p).Straight := by
  obtain ⟨above, name, hnamed⟩ := h.named
  have hback := h.straight.back
  have hdot := h.straight.dot
  rw [hnamed.names] at hback hdot
  have hdots : Path.besideName name ≠ ".." := Path.besideName_ne_of_short (by decide)
  have hone : Path.besideName name ≠ "." := Path.besideName_ne_of_short (by decide)
  rw [hnamed.besidePath]
  constructor <;> simp_all [eq_comm]

theorem ToFile.prepared_makeParent (h : ToFile p) {r : Option (Except FileError Unit)}
    (hrun : MayRun (makeParent p) t r t') : Prepared p t t' := by
  obtain ⟨above, name, hnamed⟩ := h.named
  obtain ⟨ending, hparent⟩ := hnamed.parent_eq
  rw [makeParent, hparent] at hrun
  have hgrown : t.Grown (· ∈ Path.places ⟨p.absolute, above, ending⟩) t' := by
    rcases hrun.of_query with ⟨answer, -, hgoes⟩ | ⟨-, hleaves⟩
    · exact hgoes.createDirs
    · exact hleaves
  have hback := h.straight.back
  have hdot := h.straight.dot
  rw [hnamed.names] at hback hdot
  have habove : Path.Straight ⟨p.absolute, above, ending⟩ := ⟨by simp_all, by simp_all⟩
  intro q _
  refine (hgrown q).imp_right fun ⟨hq, hnone, hmade⟩ => ⟨hnone, hmade, ?_⟩
  have hinitial := habove.isPrefix_of_mem_places hq
  rw [hnamed.names]
  refine ⟨hinitial.trans (List.prefix_append above [name]), ?_⟩
  rintro rfl
  have hlength : (above ++ [name]).length ≤ above.length := hinitial.length_le
  rw [List.length_append, List.length_singleton] at hlength
  omega

/-- Writing touches nothing but the file that a path names, whether or not it comes to its end. -/
theorem edited_write (hstraight : p.Straight) {bytes : ByteArray}
    (hwrite : t.write p bytes = .ok t') : t.Edited (· = p.names) t' := by
  obtain ⟨names, e, hlocate, hne, -, rfl⟩ := Tree.write_eq_ok.mp hwrite
  obtain rfl := hstraight.names_of_locate hlocate
  obtain ⟨-, -, he⟩ := Tree.mem_places_of_locate hlocate hne
  exact Tree.edited_put (he ▸ hne) _

theorem edited_write_leaves (hstraight : p.Straight) {bytes : ByteArray}
    (hleaves : (SystemCall.write p bytes).Leaves t t') : t.Edited (· = p.names) t' := by
  rcases SystemCall.leaves_write.mp hleaves with rfl | ⟨n, hwrite⟩
  · exact .refl _ _
  · exact edited_write hstraight hwrite

theorem ToFile.edited_write (h : ToFile p) {bytes : ByteArray}
    (hwrite : t.write (beside p) bytes = .ok t') : t.Edited (· = (beside p).names) t' :=
  ConfigFile.edited_write h.straight_beside hwrite

theorem ToFile.edited_write_leaves (h : ToFile p) {bytes : ByteArray}
    (hleaves : (SystemCall.write (beside p) bytes).Leaves t t') :
    t.Edited (· = (beside p).names) t' :=
  ConfigFile.edited_write_leaves h.straight_beside hleaves

theorem edited_remove (hstraight : p.Straight) (hremove : t.remove p = .ok t') :
    t.Edited (· = p.names) t' := by
  obtain ⟨names, bytes, hlocate, -, rfl⟩ := Tree.remove_eq_ok.mp hremove
  obtain rfl := hstraight.names_of_locate hlocate
  obtain ⟨-, -, he⟩ := Tree.mem_places_of_locate hlocate (by simp)
  exact Tree.edited_erase (by simp [← he])

theorem ToFile.edited_remove_leaves (h : ToFile p)
    (hleaves : (SystemCall.remove (beside p)).Leaves t t') :
    t.Edited (· = (beside p).names) t' := by
  rcases SystemCall.leaves_remove.mp hleaves with rfl | hremove
  · exact .refl _ _
  · exact edited_remove h.straight_beside hremove

theorem ToFile.replaced_rename (h : ToFile p) {t₁ t₂ t₃ : Tree} (hprepared : Prepared p t t₁)
    (hwrite : t₁.write (beside p) text.toUTF8 = .ok t₂) (hrename : t₂.rename (beside p) p = .ok t₃) :
    Replaced p text t t₃ := by
  have hprepared' := hprepared.edited (h.edited_write hwrite)
  obtain ⟨names, e, hlocate, hne, -, rfl⟩ := Tree.write_eq_ok.mp hwrite
  obtain ⟨hroot, -, -⟩ := Tree.mem_places_of_locate hlocate hne
  obtain rfl := h.straight_beside.names_of_locate hlocate
  obtain ⟨old, bytes, new, e', hsource, htarget, -, -, -, rfl⟩ := Tree.rename_eq_ok.mp hrename
  obtain ⟨-, -, hfile⟩ := Tree.mem_places_of_locate hsource (by simp)
  obtain rfl := h.straight_beside.names_of_locate hsource
  obtain rfl := h.straight.names_of_locate htarget
  rw [Tree.entry?_put_self hroot] at hfile
  obtain rfl : bytes = text.toUTF8 := by simpa using hfile
  refine ⟨Tree.entry?_put_self h.names, fun q hq hq' => ?_⟩
  rw [Tree.entry?_put_of_ne hq', Tree.entry?_erase_of_ne hq]
  exact (hprepared' q hq).imp_right fun ⟨hnone, hmade, hinitial, _⟩ => ⟨hnone, hmade, hinitial⟩

/-- Once the new text is written, the file is old until it is moved, and new afterwards. -/
theorem ToFile.mayRun_move (h : ToFile p) {t₁ t₂ : Tree} {r : Option (Except FileError Unit)}
    (hprepared : Prepared p t t₁) (hwrite : t₁.write (beside p) text.toUTF8 = .ok t₂)
    (hrun : MayRun (do
      match ← rename (beside p) p with
      | .ok () => return .ok ()
      | .error e => do
        let _ ← remove (beside p)
        return .error e) t₂ r t') : OldOrNew p text t t' r := by
  have hprepared' := hprepared.edited (h.edited_write hwrite)
  rcases hrun.of_bind.symm with ⟨rfl, hmove⟩ | ⟨moved, t₃, hmove, hrest⟩
  · obtain ⟨_, hnone, _⟩ | ⟨-, hleaves⟩ := hmove.of_query
    · cases hnone
    · rcases SystemCall.leaves_rename.mp hleaves with rfl | hmoved
      · exact .inl ⟨hprepared', nofun⟩
      · exact .inr ⟨h.replaced_rename hprepared hwrite hmoved, nofun⟩
  obtain ⟨_, hanswer, hgoes⟩ := hmove.of_query.resolve_right (by simp)
  cases hanswer
  rcases hgoes.rename with ⟨rfl, hmoved⟩ | ⟨⟨e, rfl⟩, rfl⟩
  · obtain ⟨rfl, rfl⟩ := hrest.of_pure
    exact .inr ⟨h.replaced_rename hprepared hwrite hmoved, nofun⟩
  · dsimp only at hrest
    rcases hrest.of_bind.symm with ⟨rfl, hremove⟩ | ⟨_, t₄, hremove, hlast⟩
    · obtain ⟨_, hnone, _⟩ | ⟨-, hleaves⟩ := hremove.of_query
      · cases hnone
      · exact .inl ⟨hprepared'.edited (h.edited_remove_leaves hleaves), nofun⟩
    · obtain ⟨_, -, hgoes⟩ := hremove.of_query.resolve_right (by simp)
      obtain ⟨rfl, rfl⟩ := hlast.of_pure
      exact .inl ⟨hprepared'.edited (h.edited_remove_leaves hgoes.remove), nofun⟩

/-- However replacing the text of a file goes, its file is old or new, and it is old where it is said
that it could not be replaced. -/
theorem ToFile.mayRun_replace (h : ToFile p) {r : Option (Except FileError Unit)}
    (hrun : MayRun (replace p text) t r t') : OldOrNew p text t t' r := by
  rw [replace] at hrun
  rcases hrun.of_bind.symm with ⟨rfl, hmake⟩ | ⟨made, t₁, hmake, hrest⟩
  · exact .inl ⟨h.prepared_makeParent hmake, nofun⟩
  have hprepared := h.prepared_makeParent hmake
  cases made with
  | error e =>
    obtain ⟨rfl, rfl⟩ := hrest.of_pure
    exact .inl ⟨hprepared, nofun⟩
  | ok made =>
    dsimp only at hrest
    rcases hrest.of_bind.symm with ⟨rfl, hwrite⟩ | ⟨written, t₂, hwrite, hmove⟩
    · obtain ⟨_, hnone, _⟩ | ⟨-, hleaves⟩ := hwrite.of_query
      · cases hnone
      · exact .inl ⟨hprepared.edited (h.edited_write_leaves hleaves), nofun⟩
    obtain ⟨_, hanswer, hgoes⟩ := hwrite.of_query.resolve_right (by simp)
    cases hanswer
    rcases hgoes.write with ⟨rfl, hwritten⟩ | ⟨⟨e, rfl⟩, hleaves⟩
    · exact h.mayRun_move hprepared hwritten hmove
    · obtain ⟨rfl, rfl⟩ := hmove.of_pure
      exact .inl ⟨hprepared.edited (h.edited_write_leaves hleaves), nofun⟩

/-! ## Replacing sets -/

/-- What replacing the sets in a file may leave, and what it may say then. -/
theorem ToFile.mayRun_putSets (h : ToFile (Path.ofString path)) {sets : List PatternSet}
    {r : Option (Except StoreError Unit)} (hrun : MayRun (putSets path sets) t r t') :
    Prepared (Path.ofString path) t t' ∧ r ≠ some (.ok ()) ∨
      ∃ config, given path t = .ok config ∧
        Replaced (Path.ofString path) (Config.text { config with sets := sets }) t t' ∧
        ∀ e, r ≠ some (.error e) := by
  have hsame : Prepared (Path.ofString path) t t := fun q _ => .inl rfl
  rw [putSets] at hrun
  rcases hrun.of_bind.symm with ⟨rfl, hread⟩ | ⟨result, t₁, hread, hrest⟩
  · obtain ⟨rfl, -⟩ := mayRun_read hread
    exact .inl ⟨hsame, nofun⟩
  obtain ⟨rfl, hgiven⟩ := mayRun_read hread
  cases result with
  | error e =>
    obtain ⟨rfl, rfl⟩ := hrest.of_pure
    exact .inl ⟨hsame, nofun⟩
  | ok config =>
    dsimp only at hrest
    rcases hrest.of_bind.symm with ⟨rfl, hreplace⟩ | ⟨replaced, t₂, hreplace, hlast⟩
    · rcases h.mayRun_replace hreplace with ⟨hprepared, -⟩ | ⟨hreplaced, -⟩
      · exact .inl ⟨hprepared, nofun⟩
      · exact .inr ⟨config, hgiven config rfl, hreplaced, nofun⟩
    cases replaced with
    | error e =>
      obtain ⟨rfl, rfl⟩ := hlast.of_pure
      rcases h.mayRun_replace hreplace with ⟨hprepared, -⟩ | ⟨-, hnever⟩
      · exact .inl ⟨hprepared, nofun⟩
      · exact absurd rfl (hnever e)
    | ok replaced =>
      have hreplaced := ((h.mayRun_replace hreplace).resolve_left fun hold => hold.2 rfl).1
      dsimp only at hlast
      rcases hlast.of_bind.symm with ⟨rfl, hlog⟩ | ⟨_, t₃, hlog, hdone⟩
      · obtain ⟨_, hnone, _⟩ | ⟨-, rfl⟩ := hlog.of_query
        · cases hnone
        · exact .inr ⟨config, hgiven config rfl, hreplaced, nofun⟩
      · obtain ⟨_, -, hgoes⟩ := hlog.of_query.resolve_right (by simp)
        obtain rfl := hgoes.log
        obtain ⟨rfl, rfl⟩ := hdone.of_pure
        exact .inr ⟨config, hgiven config rfl, hreplaced, nofun⟩

/-- The store in a file puts sets there all or not at all, whatever fails and wherever it is stopped:
the entry of the file is what it was, or it has the whole new text. It is what it was if the store says
that it failed. The file beside it, which has another name, and new directories above it are all that
may be different otherwise. -/
theorem putSets_leaves_old_or_new {sets : List PatternSet}
    {r : Option (Except StoreError Unit × Unit)} (hnames : (Path.ofString path).names ≠ [])
    (hback : ".." ∉ (Path.ofString path).names)
    (hrun : MayRun ((SetStore.configFile path).put sets ()) t r t') :
    let p := Path.ofString path
    let IsNew := ∃ config, given path t = .ok config ∧
      t'.entry? p.names = some (.file (Config.text { config with sets := sets }).toUTF8)
    (beside p).names ≠ p.names ∧
      (t'.entry? p.names = t.entry? p.names ∨ IsNew) ∧
      (∀ e, r = some (.error e, ()) → t'.entry? p.names = t.entry? p.names) ∧
      (r = some (.ok (), ()) → IsNew) ∧
      ∀ q, q ≠ p.names → q ≠ (beside p).names → t'.entry? q = t.entry? q ∨
        t.entry? q = none ∧ t'.entry? q = some .directory ∧ q <+: p.names := by
  intro p IsNew
  have h : ToFile p := ⟨Path.straight_ofString hback, hnames⟩
  obtain ⟨r', hput, hr'⟩ : ∃ r', MayRun (putSets path sets) t r' t' ∧
      r = r'.map fun result => (result, ()) := by
    rcases hrun.of_bind with ⟨result, t₁, hput, hlast⟩ | ⟨rfl, hput⟩
    · obtain ⟨rfl, rfl⟩ := hlast.of_pure
      exact ⟨some result, hput, rfl⟩
    · exact ⟨none, hput, rfl⟩
  subst hr'
  refine ⟨h.beside_ne, ?_⟩
  rcases h.mayRun_putSets hput with ⟨hprepared, hnever⟩ | ⟨config, hgiven, hreplaced, hnever⟩
  · have hold : t'.entry? p.names = t.entry? p.names :=
      (hprepared p.names h.beside_ne.symm).resolve_right fun hmade => hmade.2.2.2 rfl
    refine ⟨.inl hold, fun _ _ => hold, fun hr => ?_, fun q _ hq => ?_⟩
    · rcases r' with _ | e | _
      · cases hr
      · cases hr
      · exact absurd rfl hnever
    · exact (hprepared q hq).imp_right fun ⟨hnone, hmade, hinitial, _⟩ => ⟨hnone, hmade, hinitial⟩
  · have hnew : IsNew := ⟨config, hgiven, hreplaced.file⟩
    refine ⟨.inr hnew, fun e hr => ?_, fun _ => hnew, fun q hq hq' => hreplaced.others q hq' hq⟩
    rcases r' with _ | e' | _
    · cases hr
    · exact absurd rfl (hnever e')
    · cases hr

/-- A first file is to be written in a new directory, and the program is stopped after three bytes. -/
theorem putSets_stopped_in_new_directory :
    let sets : List PatternSet := [⟨"notes", []⟩]
    let bytes := (Config.text { sets := sets }).toUTF8
    let t : Tree := ⟨[(["a.md"], .file ⟨#[]⟩)]⟩
    let t' : Tree := (t.put ["d"] .directory).put ["d", "c.json.tmp"] (.file (bytes.extract 0 3))
    MayRun ((SetStore.configFile "d/c.json").put sets ()) t none t' ∧
      t'.entry? ["d", "c.json"] = t.entry? ["d", "c.json"] ∧
      t'.entry? ["a.md"] = t.entry? ["a.md"] := by
  intro sets bytes t t'
  have hpath : Path.ofString "d/c.json" = ⟨false, ["d", "c.json"], .name⟩ := by decide +kernel
  have hread : MayRun (read "d/c.json") t (some (.ok {})) t := mayRun_run _ ⟨t, []⟩
  have hmake : MayRun (makeParent (Path.ofString "d/c.json")) t (some (.ok ()))
      (t.put ["d"] .directory) := by
    rw [hpath]
    exact mayRun_run _ ⟨t, []⟩
  have hwrite : MayRun (write (beside (Path.ofString "d/c.json")) bytes) (t.put ["d"] .directory)
      none t' := by
    rw [hpath]
    exact .stopped (.inr ⟨3, rfl⟩)
  have hrun : MayRun ((SetStore.configFile "d/c.json").put sets ()) t none t' :=
    (hread.bind ((hmake.bind (hwrite.bind_stopped _)).bind_stopped _)).bind_stopped _
  obtain ⟨-, hfile, -, -, hothers⟩ := putSets_leaves_old_or_new (by rw [hpath]; decide)
    (by rw [hpath]; decide) hrun
  rw [hpath] at hfile hothers
  refine ⟨hrun, hfile.resolve_right ?_, (hothers ["a.md"] (by decide) (by decide)).resolve_right ?_⟩
  · rintro ⟨config, -, hnew⟩
    cases hnew
  · rintro ⟨hnone, -⟩
    cases hnone

end ConfigFile

end AnchorOutline
