import AnchorOutline.Proofs.Files.Locality
import AnchorOutline.Terminal.Input

/-!
# What others change

While a line is awaited others write and delete files. They make no directories and remove none, so
in two trees with the same directories a change goes to the same place.

* `Terminal.Change.apply_cases` : what a change does;
* `Terminal.Change.apply_agrees` : trees that agree somewhere still do after a change in both;
* `Terminal.changes_of_readLine` : the changes until a line is complete, and those after it, are those
  that come in.
-/

namespace AnchorOutline

namespace Tree

variable {t t' u : Tree} {p : Path} {bytes : ByteArray}

/-- Two trees have the same directories at some places. -/
def SameDirectories (W : List String → Prop) (t t' : Tree) : Prop :=
  ∀ q, W q → (t.entry? q = some .directory ↔ t'.entry? q = some .directory)

theorem SameDirectories.symm {W : List String → Prop} (h : t.SameDirectories W t') :
    t'.SameDirectories W t := fun q hq => (h q hq).symm

/-- A path that leads to no directory leads to the same place in a tree with the same directories. -/
theorem SameDirectories.locate (h : t.SameDirectories (· ∈ p.places) t') {names : List String}
    {e : Option Entry} (hlocate : t.locate p = .ok (names, e)) (hne : e ≠ some .directory) :
    t'.locate p = .ok (names, t'.entry? names) ∧ t'.entry? names ≠ some .directory := by
  obtain ⟨-, hmem, he⟩ := mem_places_of_locate hlocate hne
  have hlocate' := locate_of_directories (fun q hq => (h q hq).mp) hlocate
  rw [if_neg hne] at hlocate'
  exact ⟨hlocate', fun hdirectory => hne (he.trans ((h names hmem).mpr hdirectory))⟩

theorem SameDirectories.write (h : t.SameDirectories (· ∈ p.places) t')
    (hwrite : t.write p bytes = .ok u) : ∃ names, u = t.put names (.file bytes) ∧
      t'.write p bytes = .ok (t'.put names (.file bytes)) := by
  obtain ⟨names, e, hlocate, hne, hending, rfl⟩ := write_eq_ok.mp hwrite
  obtain ⟨hlocate', hne'⟩ := h.locate hlocate hne
  exact ⟨names, rfl, write_eq_ok.mpr ⟨names, _, hlocate', hne', hending, rfl⟩⟩

theorem SameDirectories.remove (h : t.SameDirectories (· ∈ p.places) t')
    (hremove : t.remove p = .ok u) : ∃ names, u = t.erase names ∧
      ((t'.remove p).toOption.getD t').Agrees (fun _ => True) (t'.erase names) := by
  obtain ⟨names, bytes, hlocate, hending, rfl⟩ := remove_eq_ok.mp hremove
  obtain ⟨hroot, -, -⟩ := mem_places_of_locate hlocate (by simp)
  obtain ⟨hlocate', hne'⟩ := h.locate hlocate (by simp)
  refine ⟨names, rfl, fun q _ => ?_⟩
  cases hentry : t'.entry? names with
  | none =>
    rw [hentry] at hlocate'
    have hfailed : t'.remove p = .error .notFound := by
      rw [Tree.remove, hlocate']
      rfl
    rw [hfailed]
    by_cases hq : q = names
    · rw [hq, entry?_erase_self hroot]
      exact hentry
    · exact (entry?_erase_of_ne hq).symm
  | some entry =>
    cases entry with
    | directory => exact absurd hentry hne'
    | file bytes' =>
      rw [hentry] at hlocate'
      rw [remove_eq_ok.mpr ⟨names, bytes', hlocate', hending, rfl⟩]
      rfl

end Tree

namespace Terminal

namespace Change

variable {t t' : Tree} {W : List String → Prop}

def path : Change → Path
  | write p _ => p
  | delete p => p

/-- A change puts a file where its path leads and no directory is, or takes away what is there, or does
nothing. -/
theorem apply_cases (c : Change) (t : Tree) :
    c.apply t = t ∨ ∃ names e, t.locate c.path = .ok (names, e) ∧ e ≠ some .directory ∧
      ((∃ bytes, c.apply t = t.put names (.file bytes)) ∨ c.apply t = t.erase names) := by
  cases c with
  | write p bytes =>
    rw [apply]
    cases hwrite : t.write p bytes with
    | error e => exact .inl rfl
    | ok u =>
      obtain ⟨names, e, hlocate, hne, -, rfl⟩ := Tree.write_eq_ok.mp hwrite
      exact .inr ⟨names, e, hlocate, hne, .inl ⟨bytes, rfl⟩⟩
  | delete p =>
    rw [apply]
    cases hremove : t.remove p with
    | error e => exact .inl rfl
    | ok u =>
      obtain ⟨names, bytes, hlocate, -, rfl⟩ := Tree.remove_eq_ok.mp hremove
      exact .inr ⟨names, _, hlocate, by simp, .inr rfl⟩

theorem edited_apply_at (c : Change) (t : Tree) :
    c.apply t = t ∨ ∃ names e, t.locate c.path = .ok (names, e) ∧ e ≠ some .directory ∧
      t.Edited (· = names) (c.apply t) := by
  refine (c.apply_cases t).imp_right fun ⟨names, e, hlocate, hne, hdone⟩ => ⟨names, e, hlocate, hne, ?_⟩
  obtain ⟨-, -, rfl⟩ := Tree.mem_places_of_locate hlocate hne
  rcases hdone with ⟨bytes, hput⟩ | herase
  · rw [hput]
    exact Tree.edited_put hne _
  · rw [herase]
    exact Tree.edited_erase hne

theorem edited_apply (c : Change) (t : Tree) : t.Edited (· ∈ c.path.places) (c.apply t) := by
  rcases c.edited_apply_at t with hsame | ⟨names, e, hlocate, hne, hedited⟩
  · rw [hsame]
    exact .refl _ t
  · exact hedited.mono fun q hq => hq ▸ (Tree.mem_places_of_locate hlocate hne).2.1

theorem apply_directory (c : Change) (t : Tree) (q : List String) :
    Tree.entry? (c.apply t) q = some .directory ↔ t.entry? q = some .directory := by
  refine ⟨fun h => ?_, (c.edited_apply t).directory⟩
  rcases c.apply_cases t with hsame | ⟨names, e, hlocate, hne, hdone⟩
  · rwa [hsame] at h
  obtain ⟨hroot, -, -⟩ := Tree.mem_places_of_locate hlocate hne
  rcases hdone with ⟨bytes, hput⟩ | herase
  · rw [hput] at h
    by_cases hq : q = names
    · subst hq
      rw [Tree.entry?_put_self hroot] at h
      cases h
    · rwa [Tree.entry?_put_of_ne hq] at h
  · rw [herase] at h
    by_cases hq : q = names
    · subst hq
      rw [Tree.entry?_erase_self hroot] at h
      cases h
    · rwa [Tree.entry?_erase_of_ne hq] at h

theorem apply_agrees (c : Change) (h : t.Agrees W t')
    (hdirectories : t.SameDirectories (· ∈ c.path.places) t') :
    (c.apply t).Agrees W (c.apply t') := by
  cases c with
  | write p bytes =>
    have hsame : t.SameDirectories (· ∈ p.places) t' := hdirectories
    rw [apply, apply]
    cases hwrite : t.write p bytes with
    | ok u =>
      obtain ⟨names, rfl, hwrite'⟩ := hsame.write hwrite
      rw [hwrite']
      exact h.put names _
    | error e =>
      cases hwrite' : t'.write p bytes with
      | error e' => exact h
      | ok u =>
        obtain ⟨names, -, hdone⟩ := hsame.symm.write hwrite'
        cases hwrite.symm.trans hdone
  | delete p =>
    have hsame : t.SameDirectories (· ∈ p.places) t' := hdirectories
    rw [apply, apply]
    cases hremove : t.remove p with
    | ok u =>
      obtain ⟨names, rfl, hgone⟩ := hsame.remove hremove
      exact fun q hq => (h.erase names q hq).trans (hgone q trivial).symm
    | error e =>
      cases hremove' : t'.remove p with
      | error e' => exact h
      | ok u =>
        obtain ⟨names, rfl, hgone⟩ := hsame.symm.remove hremove'
        rw [hremove] at hgone
        exact fun q hq => (hgone q trivial).trans (h.erase names q hq)

end Change

theorem changes_of_readLine (begun : List UInt8) (input : List Arrival) :
    (∀ c ∈ (readLine begun input).changes, .change c ∈ input) ∧
      ∀ c, .change c ∈ (readLine begun input).rest → .change c ∈ input := by
  induction input generalizing begun with
  | nil => simp [readLine]
  | cons a rest ih =>
    cases a with
    | failure message => exact ⟨by simp [readLine], fun c hc => List.mem_cons_of_mem _ hc⟩
    | change c' =>
      obtain ⟨hchanges, hrest⟩ := ih begun
      refine ⟨fun c hc => ?_, fun c hc => List.mem_cons_of_mem _ (hrest c hc)⟩
      rcases List.mem_cons.mp hc with rfl | hc
      · exact List.mem_cons_self
      · exact List.mem_cons_of_mem _ (hchanges c hc)
    | bytes bs =>
      rw [readLine]
      cases cutLine bs with
      | none =>
        obtain ⟨hchanges, hrest⟩ := ih (begun ++ bs)
        exact ⟨fun c hc => List.mem_cons_of_mem _ (hchanges c hc),
          fun c hc => List.mem_cons_of_mem _ (hrest c hc)⟩
      | some cut => exact ⟨by simp, fun c hc => by simpa using hc⟩

end Terminal

end AnchorOutline
