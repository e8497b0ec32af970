import AnchorOutline.Proofs.Active.Run
import AnchorOutline.Proofs.Sets.Serving

/-!
# What a store is asked, and what it does

The exchanges of a dialogue tell what its store was asked. While others do nothing, the store goes from
one state to another by answering. Saving asks it for its sets first, and then to take them with the one
that is saved.

* `SetStore.Answers` : exchanges in which a store answers;
* `Surroundings.answers_run` : those of a run;
* `SetStore.Updates` : a store that gave its sets and took those made of them;
* `Controller.Saves.updates` : what saving does to a store;
* `SetStore.Updates.eq_of_memory`, `SetStore.Updates.given` : what this means for a list in memory, and
  for a config file.
-/

namespace AnchorOutline

variable {η σ α : Type}

/-! ## Answers of a store -/

/-- Exchanges in which a store answers, which takes it from one state and tree to another. -/
def SetStore.Answers (store : SetStore σ) : σ → Tree → List Talk → σ → Tree → Prop
  | s, t, [], s', t' => s' = s ∧ t' = t
  | s, t, ⟨.getSets, r⟩ :: u, s', t' => ∃ m : Machine, m.tree = t ∧
      (m.run (store.get s)).1.1 = r ∧
      Answers store (m.run (store.get s)).1.2 (m.run (store.get s)).2.tree u s' t'
  | s, t, ⟨.putSets sets, r⟩ :: u, s', t' => ∃ m : Machine, m.tree = t ∧
      (m.run (store.put sets s)).1.1 = r ∧
      Answers store (m.run (store.put sets s)).1.2 (m.run (store.put sets s)).2.tree u s' t'
  | s, t, ⟨.prompt _, _⟩ :: u, s', t' => Answers store s t u s' t'
  | s, t, ⟨.note _, _⟩ :: u, s', t' => Answers store s t u s' t'
  | s, t, ⟨.check _, _⟩ :: u, s', t' => Answers store s t u s' t'

theorem Surroundings.answer_putSets (w : Surroundings η σ) (sets : List PatternSet) (s : Scene η σ) :
    (w.answer (.putSets sets) s).2.store = (s.machine.run (w.store.put sets s.store)).1.2 ∧
      (w.answer (.putSets sets) s).2.machine = (s.machine.run (w.store.put sets s.store)).2 := by
  simp only [answer]
  split <;> exact ⟨rfl, rfl⟩

theorem Surroundings.answers_run (w : Surroundings η σ) (d : Dialogue α) (s : Scene η σ) :
    w.store.Answers s.store s.machine.tree (w.transcript d s) (w.run d s).2.store
      (w.run d s).2.machine.tree := by
  induction d generalizing s with
  | done a => exact ⟨rfl, rfl⟩
  | ask q next ih =>
    cases q with
    | prompt p => exact ih _ (w.answer (.prompt p) s).2
    | getSets => exact ⟨s.machine, rfl, rfl, ih _ (w.answer .getSets s).2⟩
    | putSets sets =>
      obtain ⟨hstore, hmachine⟩ := w.answer_putSets sets s
      refine ⟨s.machine, rfl, rfl, ?_⟩
      rw [← hstore, ← hmachine]
      exact ih _ (w.answer (.putSets sets) s).2
    | note n =>
      have htree : (w.answer (.note n) s).2.store = s.store ∧
          (w.answer (.note n) s).2.machine.tree = s.machine.tree := by cases n <;> exact ⟨rfl, rfl⟩
      have hrest := ih () (w.answer (.note n) s).2
      rw [htree.1, htree.2] at hrest
      exact hrest
    | check holds => exact ih () (w.answer (.check holds) s).2

/-! ## Updates -/

/-- A store that gave its sets, and then took those that a function makes of them. -/
def SetStore.Updates (store : SetStore σ) (f : List PatternSet → List PatternSet) (s : σ) (t : Tree)
    (s' : σ) (t' : Tree) : Prop :=
  ∃ (m m₁ : Machine) (sets : List PatternSet) (s₁ : σ), m.tree = t ∧
    (m.run (store.get s)).1 = (.ok sets, s₁) ∧ m₁.tree = (m.run (store.get s)).2.tree ∧
    (m₁.run (store.put (f sets) s₁)).1 = (.ok (), s') ∧ (m₁.run (store.put (f sets) s₁)).2.tree = t'

namespace SetStore.Updates

variable {f : List PatternSet → List PatternSet} {t t' : Tree}

theorem eq_of_memory {onGet onPut : Option String} {sets sets' : List PatternSet}
    (h : (SetStore.memory.refusing onGet onPut).Updates f sets t sets' t') : sets' = f sets := by
  obtain ⟨m, m₁, given, s₁, -, hget, -, hput, -⟩ := h
  cases onGet with
  | some message => cases hget
  | none =>
    cases onPut with
    | some message => cases hput
    | none =>
      cases hget
      cases hput
      rfl

/-- The new text of a config file has all else that the file gave right before. -/
theorem given {path : String} (h : (SetStore.configFile path).Updates f () t () t') :
    ∃ config, ConfigFile.given path t = .ok config ∧
      t'.read (Path.ofString path) =
        .ok (Config.text { config with sets := f config.sets }).toUTF8 := by
  obtain ⟨m, m₁, sets, s₁, rfl, hget, hbetween, hput, rfl⟩ := h
  rw [ConfigFile.run_get] at hget
  obtain ⟨hread, htree⟩ := ConfigFile.run_read path m
  have hsame : m₁.tree = m.tree := hbetween.trans (by rw [ConfigFile.run_get, htree])
  rw [ConfigFile.run_put] at hput ⊢
  obtain ⟨config, hgiven, hnew⟩ := ConfigFile.given_of_putSets (congrArg Prod.fst hput)
  rw [hsame] at hgiven
  refine ⟨config, hgiven, ?_⟩
  rw [hgiven] at hget
  cases hget
  exact hnew

end SetStore.Updates

def namePrompt : Prompt := .text (some "Name for this pattern set") none

namespace Controller

variable {c : Controller}

/-- An operation that saves, if it is applied, leaves the controller as it is. -/
theorem ensures_saves (c : Controller) (command : SetCommand) :
    (command.operation c).Ensures fun t r =>
      command = .save → r.1 = .ok .applied → c.Saves t ∧ r.2 = c := by
  refine ensures_operation ⟨?_, ?_, ?_, ?_⟩
  · intro t result _ hresult _ _ happlied
    exact absurd happlied hresult
  · intro _ t e _ _ happlied
    cases happlied
  · intro t patterns ht
    have hcommand : command ≠ .save := by rintro rfl; cases ht
    exact Interaction.ensures_of_forall (fun _ _ hsave => absurd hsave hcommand) _
  · exact fun _ t ht _ _ => ⟨ht, rfl⟩

theorem Saves.eq_cons {u : List Talk} (h : c.Saves u) :
    ∃ id rest, u = Talk.prompt namePrompt (.ok (.submitted id)) :: rest ∧
      ∀ x ∈ rest, x.isPrompt = false := by
  obtain ⟨id, sets, record, -, -⟩ := h
  exact ⟨id, _, rfl, by simp [Talk.isPrompt, Talk.getSets, Talk.putSets, Talk.log, Talk.note]⟩

theorem Saves.eq_nil_of_prompt {t u : List Talk} {p : Prompt} {r : Except HostFailure Reply}
    (h : c.Saves (t ++ Talk.prompt p r :: u)) : t = [] ∧ ∃ id, r = .ok (.submitted id) := by
  obtain ⟨id, rest, hsplit, hquiet⟩ := h.eq_cons
  cases t with
  | nil =>
    obtain ⟨hname, -⟩ := List.cons.inj hsplit
    cases hname
    exact ⟨rfl, id, rfl⟩
  | cons x t =>
    have hmem : Talk.prompt p r ∈ rest := by
      rw [← (List.cons.inj hsplit).2]
      simp
    cases hquiet _ hmem

theorem Saves.updates {store : SetStore σ} {s s' : σ} {t t' : Tree} {id : String} {rest : List Talk}
    (h : c.Saves (Talk.prompt namePrompt (.ok (.submitted id)) :: rest))
    (hanswers : store.Answers s t rest s' t') :
    store.Updates (PatternSet.upsert · (.ofPatterns id c.current)) s t s' t' := by
  generalize hu : Talk.prompt namePrompt (.ok (.submitted id)) :: rest = u at h
  obtain ⟨id', sets, record, -, -⟩ := h
  obtain ⟨hname, rfl⟩ := List.cons.inj hu
  cases hname
  obtain ⟨m, hm, hget, m₁, hm₁, hput, rfl, rfl⟩ := hanswers
  exact ⟨m, m₁, sets, _, hm, Prod.ext hget rfl, hm₁, Prod.ext hput rfl, rfl⟩

end Controller

end AnchorOutline
