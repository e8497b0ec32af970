import AnchorOutline.Files.System
import AnchorOutline.Proofs.Files.Tree
import AnchorOutline.Proofs.Interaction

/-!
# What a program has to do with

A program that asks about some places of a tree only goes the same on all trees that agree there, and
it changes nothing anywhere else.

* `SystemCall.places` : the places that a call has to do with;
* `Tree.Grown` : a tree that has more directories than an earlier one;
* `Machine.answer_congr`, `Machine.answer_edited` : one call;
* `Action.Within`, `Machine.run_congr`, `Machine.run_edited` : a whole program;
* `Action.Reads`, `Machine.tree_run_of_reads` : one that changes nothing.
-/

namespace AnchorOutline

def SystemCall.places : SystemCall → List (List String)
  | read p | isPresent p | createDirs p | write p _ | remove p => p.places
  | rename source target => source.places ++ target.places
  | log _ => []

/-! ## Making directories -/

/-- What making directories leaves, whether or not it came to its end. -/
def madeOf {σ : Type} : Except (FileError × σ) σ → σ
  | .ok s => s
  | .error (_, s) => s

section

variable {σ : Type} (createDir : σ → Path → Except FileError σ) (isDirectory : σ → Path → Bool)
  (absolute : Bool)

/-- One directory is made, whose names are the last ones of others read backwards. -/
def MakesDir (names : List String) (s s' : σ) : Prop :=
  ∃ above, above ≠ [] ∧ above <:+ names ∧ createDir s ⟨absolute, above.reverse, .name⟩ = .ok s'

theorem makeDirs_steps (names : List String) (s : σ) :
    Relation.ReflTransGen (MakesDir createDir absolute names) s
      (madeOf (makeDirs createDir isDirectory absolute names s)) := by
  induction names generalizing s with
  | nil => exact .refl
  | cons name above ih =>
    have hlast {s s' : σ} (hcreate : createDir s ⟨absolute, (name :: above).reverse, .name⟩ = .ok s') :
        MakesDir createDir absolute (name :: above) s s' :=
      ⟨_, List.cons_ne_nil _ _, List.suffix_refl _, hcreate⟩
    rw [makeDirs]
    split
    next s' hcreate => exact .single (hlast hcreate)
    next =>
      have hmade : Relation.ReflTransGen (MakesDir createDir absolute (name :: above)) s
          (madeOf (makeDirs createDir isDirectory absolute above s)) := by
        refine (ih s).lift id fun s s' ⟨names, hne, hsuffix, hcreate⟩ => ?_
        exact ⟨names, hne, hsuffix.trans (List.suffix_cons name above), hcreate⟩
      cases hrest : makeDirs createDir isDirectory absolute above s with
      | error r =>
        rw [hrest] at hmade
        exact hmade
      | ok s' =>
        rw [hrest] at hmade
        dsimp only [bind, Except.bind]
        split
        next s'' hcreate => exact hmade.tail (hlast hcreate)
        next => split <;> exact hmade
    next =>
      dsimp only
      split <;> exact .refl

end

namespace Tree

variable {t t' t'' : Tree} {p : Path} {W W' : List String → Prop}

/-- A tree differs from an earlier one by directories only, at places where nothing was. -/
def Grown (W : List String → Prop) (t t' : Tree) : Prop :=
  ∀ q, t'.entry? q = t.entry? q ∨ W q ∧ t.entry? q = none ∧ t'.entry? q = some .directory

theorem Grown.refl (W : List String → Prop) (t : Tree) : t.Grown W t := fun _ => .inl rfl

theorem Grown.mono (h : t.Grown W t') (hW : ∀ q, W q → W' q) : t.Grown W' t' :=
  fun q => (h q).imp_right fun ⟨hq, hrest⟩ => ⟨hW q hq, hrest⟩

theorem Grown.trans (h : t.Grown W t') (h' : t'.Grown W t'') : t.Grown W t'' := by
  intro q
  rcases h' q with hq' | ⟨hq, hnone, hmade⟩
  · rw [hq']
    exact h q
  · rcases h q with hsame | ⟨-, -, hmade'⟩
    · exact .inr ⟨hq, hsame ▸ hnone, hmade⟩
    · rw [hnone] at hmade'
      cases hmade'

theorem Grown.edited (h : t.Grown W t') : t.Edited W t' :=
  fun q => (h q).imp_right fun ⟨hq, hnone, _⟩ => ⟨hq, by simp [hnone]⟩

theorem grown_createDir (h : t.createDir p = .ok t') : t.Grown (· ∈ p.places) t' := by
  obtain ⟨names, hlocate, rfl⟩ := createDir_eq_ok.mp h
  obtain ⟨hne, hmem, hnone⟩ := mem_places_of_locate hlocate (by simp)
  intro q
  by_cases hq : q = names
  · subst hq
    exact .inr ⟨hmem, hnone.symm, entry?_put_self hne⟩
  · exact .inl (entry?_put_of_ne hq)

theorem grown_createDirsFrom (t : Tree) (absolute : Bool) (names : List String) :
    t.Grown (· ∈ placesFrom [] names.reverse) (madeOf (t.createDirsFrom absolute names)) := by
  have hsteps := makeDirs_steps createDir isDirectory absolute names t
  rw [createDirsFrom]
  generalize madeOf (makeDirs createDir isDirectory absolute names t) = made at hsteps
  induction hsteps with
  | refl => exact .refl _ t
  | tail _ hstep ih =>
    obtain ⟨above, -, ⟨below, rfl⟩, hcreate⟩ := hstep
    refine ih.trans ((grown_createDir hcreate).mono fun q hq => ?_)
    rw [List.reverse_append]
    exact placesFrom_subset_append [] above.reverse below.reverse hq

theorem grown_createDirs (t : Tree) (p : Path) :
    t.Grown (· ∈ p.places) (madeOf (t.createDirs p)) := by
  have h := grown_createDirsFrom t p.absolute p.names.reverse
  rwa [List.reverse_reverse] at h

theorem isDirectory_of_createDir (h : t.createDir p = .ok t') : t'.isDirectory p = true := by
  obtain ⟨names, hlocate, rfl⟩ := createDir_eq_ok.mp h
  obtain ⟨hne, -, hnone⟩ := mem_places_of_locate hlocate (by simp)
  have hput : t.Edited (· = names) (t.put names .directory) := edited_put (by simp [← hnone]) _
  rw [isDirectory, locate_of_edited hput hlocate, if_neg (by simp), entry?_put_self hne]

theorem isDirectory_of_createDirsFrom {absolute : Bool} {name : String} {above : List String}
    (h : t.createDirsFrom absolute (name :: above) = .ok t') :
    t'.isDirectory ⟨absolute, (name :: above).reverse, .name⟩ = true := by
  have hsettle {t t' : Tree} {e : FileError}
      (h : (if t.isDirectory ⟨absolute, (name :: above).reverse, .name⟩ then .ok t
        else .error (e, t) : Except (FileError × Tree) Tree) = .ok t') :
      t'.isDirectory ⟨absolute, (name :: above).reverse, .name⟩ = true := by
    split at h
    next hdirectory =>
      cases h
      exact hdirectory
    next => cases h
  rw [createDirsFrom, makeDirs] at h
  split at h
  next t₁ hcreate =>
    cases h
    exact isDirectory_of_createDir hcreate
  next =>
    cases hrest : makeDirs createDir isDirectory absolute above t with
    | error r =>
      rw [hrest] at h
      cases h
    | ok t₁ =>
      rw [hrest] at h
      dsimp only [bind, Except.bind] at h
      split at h
      next t₂ hcreate =>
        cases h
        exact isDirectory_of_createDir hcreate
      next => exact hsettle h
  next => exact hsettle h

theorem createDirsFrom_of_isDirectory {absolute : Bool} {name : String} {above : List String}
    (h : t.isDirectory ⟨absolute, (name :: above).reverse, .name⟩ = true) :
    t.createDirsFrom absolute (name :: above) = .ok t := by
  have hcreate : t.createDir ⟨absolute, (name :: above).reverse, .name⟩ = .error .alreadyExists := by
    rw [isDirectory] at h
    split at h
    next hlocate =>
      rw [createDir, hlocate]
      rfl
    next => cases h
  rw [createDirsFrom, makeDirs, hcreate]
  exact if_pos h

/-- Directories that were made once are there, whatever was edited since. -/
theorem createDirs_again (h : t.createDirs p = .ok t') {t'' : Tree} (hedited : t'.Edited W t'') :
    t''.createDirs p = .ok t'' := by
  rw [createDirs] at h ⊢
  cases hnames : p.names.reverse with
  | nil => rfl
  | cons name above =>
    rw [hnames] at h
    exact createDirsFrom_of_isDirectory (isDirectory_of_edited hedited (isDirectory_of_createDirsFrom h))

/-! ## Editing -/

theorem edited_write {bytes : ByteArray} (h : t.write p bytes = .ok t') :
    t.Edited (· ∈ p.places) t' := by
  obtain ⟨names, e, hlocate, hne, -, rfl⟩ := write_eq_ok.mp h
  obtain ⟨-, hmem, he⟩ := mem_places_of_locate hlocate hne
  refine (edited_put (he ▸ hne) _).mono ?_
  rintro q rfl
  exact hmem

theorem edited_remove (h : t.remove p = .ok t') : t.Edited (· ∈ p.places) t' := by
  obtain ⟨names, bytes, hlocate, -, rfl⟩ := remove_eq_ok.mp h
  obtain ⟨-, hmem, he⟩ := mem_places_of_locate hlocate (by simp)
  refine (edited_erase (by simp [← he])).mono ?_
  rintro q rfl
  exact hmem

theorem edited_rename {source target : Path} (h : t.rename source target = .ok t') :
    t.Edited (fun q => q ∈ source.places ∨ q ∈ target.places) t' := by
  obtain ⟨old, bytes, new, e, hsource, htarget, hne, -, -, rfl⟩ := rename_eq_ok.mp h
  obtain ⟨hroot, hold, hfile⟩ := mem_places_of_locate hsource (by simp)
  obtain ⟨-, hnew, he⟩ := mem_places_of_locate htarget hne
  have herased : t.Edited (· = old) (t.erase old) := edited_erase (by simp [← hfile])
  have hfree : entry? (t.erase old) new ≠ some .directory := by
    by_cases hsame : new = old
    · subst hsame
      simp [entry?_erase_self hroot]
    · rwa [entry?_erase_of_ne hsame, ← he]
  refine (herased.mono ?_).trans ((edited_put hfree _).mono ?_)
  · rintro q rfl
    exact .inl hold
  · rintro q rfl
    exact .inr hnew

/-! ## Agreeing -/

/-- Outcomes of the same work on trees that agree at some places: trees that agree there, or the same
failure. -/
inductive Alike (W : List String → Prop) : Except FileError Tree → Except FileError Tree → Prop
  | ok {t t' : Tree} (h : t.Agrees W t') : Alike W (.ok t) (.ok t')
  | error (e : FileError) : Alike W (.error e) (.error e)

/-- The same for making directories, where a failure comes with a tree too. -/
inductive AlikeMade (W : List String → Prop) :
    Except (FileError × Tree) Tree → Except (FileError × Tree) Tree → Prop
  | ok {t t' : Tree} (h : t.Agrees W t') : AlikeMade W (.ok t) (.ok t')
  | error (e : FileError) {t t' : Tree} (h : t.Agrees W t') :
    AlikeMade W (.error (e, t)) (.error (e, t'))

theorem createDir_alike (h : t.Agrees W t') (hW : ∀ q ∈ p.places, W q) :
    Alike W (t.createDir p) (t'.createDir p) := by
  unfold createDir
  rw [locate_congr (h.mono hW)]
  cases t'.locate p with
  | error e => exact .error e
  | ok r =>
    obtain ⟨names, _ | e⟩ := r
    · exact .ok (h.put names .directory)
    · exact .error _

theorem write_alike (h : t.Agrees W t') (hW : ∀ q ∈ p.places, W q) (bytes : ByteArray) :
    Alike W (t.write p bytes) (t'.write p bytes) := by
  unfold write
  rw [locate_congr (h.mono hW)]
  cases t'.locate p with
  | error e => exact .error e
  | ok r =>
    obtain ⟨names, e⟩ := r
    have hput : Alike W
        (if p.ending = .slash then .error .isDirectory else .ok (t.put names (.file bytes)))
        (if p.ending = .slash then .error FileError.isDirectory
          else .ok (t'.put names (.file bytes))) := by
      split
      · exact .error _
      · exact .ok (h.put names _)
    rcases e with _ | ⟨bytes' | _⟩
    · exact hput
    · exact hput
    · exact .error _

theorem remove_alike (h : t.Agrees W t') (hW : ∀ q ∈ p.places, W q) :
    Alike W (t.remove p) (t'.remove p) := by
  unfold remove
  rw [locate_congr (h.mono hW)]
  cases t'.locate p with
  | error e => exact .error e
  | ok r =>
    obtain ⟨names, e⟩ := r
    rcases e with _ | ⟨bytes | _⟩
    · exact .error _
    · show Alike W
        (if p.ending = .slash then .error FileError.notDirectory else .ok (t.erase names))
        (if p.ending = .slash then .error FileError.notDirectory else .ok (t'.erase names))
      split
      · exact .error _
      · exact .ok (h.erase names)
    · exact .error _

theorem rename_alike {source target : Path} (h : t.Agrees W t') (hsource : ∀ q ∈ source.places, W q)
    (htarget : ∀ q ∈ target.places, W q) :
    Alike W (t.rename source target) (t'.rename source target) := by
  unfold rename
  rw [locate_congr (h.mono hsource), locate_congr (h.mono htarget)]
  cases t'.locate source with
  | error e => exact .error e
  | ok r =>
    obtain ⟨old, e⟩ := r
    cases t'.locate target with
    | error e' => exact .error e'
    | ok r' =>
      obtain ⟨new, e'⟩ := r'
      have hmove (bytes : ByteArray) : Alike W
          (if source.ending = .slash || target.ending = .slash then .error .notDirectory
            else .ok ((t.erase old).put new (.file bytes)))
          (if source.ending = .slash || target.ending = .slash then .error FileError.notDirectory
            else .ok ((t'.erase old).put new (.file bytes))) := by
        split
        · exact .error _
        · exact .ok ((h.erase old).put new _)
      rcases e with _ | ⟨bytes | _⟩
      · exact .error _
      · rcases e' with _ | ⟨bytes' | _⟩
        · exact hmove bytes
        · exact hmove bytes
        · exact .error _
      · exact .error _

theorem isDirectory_congr (h : t.Agrees W t') (hW : ∀ q ∈ p.places, W q) :
    t.isDirectory p = t'.isDirectory p := by
  rw [isDirectory, isDirectory, locate_congr (h.mono hW)]

theorem createDirsFrom_alike (h : t.Agrees W t') (absolute : Bool) {names : List String}
    (hW : ∀ q ∈ placesFrom [] names.reverse, W q) :
    AlikeMade W (t.createDirsFrom absolute names) (t'.createDirsFrom absolute names) := by
  induction names generalizing t t' with
  | nil => exact .ok h
  | cons name above ih =>
    have habove : ∀ q ∈ placesFrom [] above.reverse, W q := fun q hq => hW q (by
      rw [List.reverse_cons]
      exact placesFrom_subset_append [] above.reverse [name] hq)
    have hplaces : ∀ q ∈ Path.places ⟨absolute, (name :: above).reverse, .name⟩, W q := hW
    have hsettle {t t' : Tree} (h : t.Agrees W t') (e : FileError) : AlikeMade W
        (if t.isDirectory ⟨absolute, (name :: above).reverse, .name⟩ then .ok t else .error (e, t))
        (if t'.isDirectory ⟨absolute, (name :: above).reverse, .name⟩ then .ok t'
          else .error (e, t')) := by
      rw [isDirectory_congr h hplaces]
      split
      · exact .ok h
      · exact .error e h
    have hcreate := createDir_alike h hplaces
    rw [createDirsFrom, createDirsFrom, makeDirs, makeDirs]
    generalize t.createDir _ = made, t'.createDir _ = made' at hcreate
    cases hcreate with
    | ok h => exact .ok h
    | error e =>
      cases e with
      | notFound =>
        have hrest := ih h habove
        dsimp only
        rw [createDirsFrom, createDirsFrom] at hrest
        generalize makeDirs createDir isDirectory absolute above t = rest,
          makeDirs createDir isDirectory absolute above t' = rest' at hrest
        cases hrest with
        | error e h => exact .error e h
        | @ok t t' h =>
          have hcreate := createDir_alike h hplaces
          dsimp only [bind, Except.bind]
          generalize t.createDir _ = made, t'.createDir _ = made' at hcreate
          cases hcreate with
          | ok h => exact .ok h
          | error e => exact hsettle h e
      | _ => exact hsettle h _

theorem createDirs_alike (h : t.Agrees W t') (hW : ∀ q ∈ p.places, W q) :
    AlikeMade W (t.createDirs p) (t'.createDirs p) := by
  refine createDirsFrom_alike h p.absolute ?_
  rwa [List.reverse_reverse]

end Tree

/-! ## Calls -/

namespace Machine

variable {m m' : Machine} {W : List String → Prop} {α : Type}

theorem settle_edited {done : Except FileError Tree}
    (h : ∀ t, done = .ok t → m.tree.Edited W t) : m.tree.Edited W (m.settle done).2.tree := by
  cases done with
  | ok t => exact h t rfl
  | error e => exact .refl W m.tree

/-- A call changes nothing but places that it has to do with, and no directory. -/
theorem answer_edited (call : SystemCall) (m : Machine) :
    m.tree.Edited (· ∈ call.places) (m.answer call).2.tree := by
  cases call with
  | read p => exact .refl _ _
  | isPresent p => exact .refl _ _
  | log record => exact .refl _ _
  | write p bytes => exact settle_edited fun t h => Tree.edited_write h
  | remove p => exact settle_edited fun t h => Tree.edited_remove h
  | rename source target =>
    refine settle_edited fun t h => (Tree.edited_rename h).mono fun q hq => ?_
    simpa [SystemCall.places] using hq
  | createDirs p =>
    have h := (Tree.grown_createDirs m.tree p).edited
    rw [answer]
    cases hmade : m.tree.createDirs p with
    | ok t => rwa [hmade] at h
    | error r => rwa [hmade] at h

theorem settle_alike {done done' : Except FileError Tree} (h : m.tree.Agrees W m'.tree)
    (hdone : Tree.Alike W done done') : (m.settle done).1 = (m'.settle done').1 ∧
      (m.settle done).2.tree.Agrees W (m'.settle done').2.tree := by
  cases hdone with
  | ok hdone => exact ⟨rfl, hdone⟩
  | error e => exact ⟨rfl, h⟩

/-- A call gets the same answer on all trees that agree where it has to do with them, and they agree
afterwards where they did before. -/
theorem answer_congr {call : SystemCall} (hW : ∀ q ∈ call.places, W q)
    (h : m.tree.Agrees W m'.tree) : (m.answer call).1 = (m'.answer call).1 ∧
      (m.answer call).2.tree.Agrees W (m'.answer call).2.tree := by
  cases call with
  | read p =>
    refine ⟨?_, h⟩
    show m.tree.read p = m'.tree.read p
    rw [Tree.read, Tree.read, Tree.locate_congr (h.mono hW)]
  | isPresent p =>
    refine ⟨?_, h⟩
    show m.tree.isPresent p = m'.tree.isPresent p
    rw [Tree.isPresent, Tree.isPresent, Tree.locate_congr (h.mono hW)]
  | log record => exact ⟨rfl, h⟩
  | write p bytes => exact settle_alike h (Tree.write_alike h hW bytes)
  | remove p => exact settle_alike h (Tree.remove_alike h hW)
  | rename source target =>
    exact settle_alike h (Tree.rename_alike h (fun q hq => hW q (List.mem_append_left _ hq))
      fun q hq => hW q (List.mem_append_right _ hq))
  | createDirs p =>
    have hmade := Tree.createDirs_alike h hW
    rw [answer, answer]
    generalize m.tree.createDirs p = made, m'.tree.createDirs p = made' at hmade
    cases hmade with
    | ok h => exact ⟨rfl, h⟩
    | error e h => exact ⟨rfl, h⟩

end Machine

/-! ## Programs -/

/-- A program that has to do with some places only. -/
def Action.Within {α : Type} (W : List String → Prop) (x : Action α) : Prop :=
  x.AsksOnly fun call => ∀ q ∈ call.places, W q

def SystemCall.isReading : SystemCall → Bool
  | read _ | isPresent _ | log _ => true
  | createDirs _ | write .. | rename .. | remove _ => false

theorem SystemCall.cases_of_isReading {call : SystemCall} (h : call.isReading = true) :
    (∃ p, call = .read p) ∨ (∃ p, call = .isPresent p) ∨ ∃ record, call = .log record := by
  cases call with
  | read p => exact .inl ⟨p, rfl⟩
  | isPresent p => exact .inr (.inl ⟨p, rfl⟩)
  | log record => exact .inr (.inr ⟨record, rfl⟩)
  | createDirs p => cases h
  | write p bytes => cases h
  | rename source target => cases h
  | remove p => cases h

/-- A program that looks at some places only, and changes none. -/
def Action.Reads {α : Type} (W : List String → Prop) (x : Action α) : Prop :=
  x.AsksOnly fun call => call.isReading = true ∧ ∀ q ∈ call.places, W q

theorem Action.Reads.within {α : Type} {W : List String → Prop} {x : Action α} (hx : x.Reads W) :
    x.Within W :=
  hx.mono fun _ hcall => hcall.2

namespace Machine

variable {m m' : Machine} {W : List String → Prop} {α β : Type}

theorem run_bind (m : Machine) (x : Action α) (f : α → Action β) :
    m.run (x >>= f) = (m.run x).2.run (f (m.run x).1) :=
  Interaction.run_bind answer x f m

theorem run_edited {x : Action α} (hx : x.Within W) (m : Machine) :
    m.tree.Edited W (m.run x).2.tree := by
  induction x generalizing m with
  | done a => exact .refl W m.tree
  | ask call next ih =>
    exact ((answer_edited call m).mono hx.1).trans (ih _ (hx.2 _) _)

theorem run_congr {x : Action α} (hx : x.Within W) (h : m.tree.Agrees W m'.tree) :
    (m.run x).1 = (m'.run x).1 ∧ (m.run x).2.tree.Agrees W (m'.run x).2.tree := by
  induction x generalizing m m' with
  | done a => exact ⟨rfl, h⟩
  | ask call next ih =>
    obtain ⟨hsame, hagree⟩ := answer_congr hx.1 h
    have hrest := ih (m.answer call).1 (hx.2 _) hagree
    have hrun (m : Machine) : m.run (.ask call next) =
        (m.answer call).2.run (next (m.answer call).1) := rfl
    rw [hrun, hrun, ← hsame]
    exact hrest

theorem tree_answer_of_isReading {call : SystemCall} (h : call.isReading = true) (m : Machine) :
    (m.answer call).2.tree = m.tree := by
  obtain ⟨p, rfl⟩ | ⟨p, rfl⟩ | ⟨record, rfl⟩ := SystemCall.cases_of_isReading h <;> rfl

theorem tree_run_of_reads {x : Action α} (hx : x.Reads W) (m : Machine) :
    (m.run x).2.tree = m.tree := by
  induction x generalizing m with
  | done a => rfl
  | ask call next ih => exact (ih _ (hx.2 _) _).trans (tree_answer_of_isReading hx.1.1 m)

end Machine

end AnchorOutline
