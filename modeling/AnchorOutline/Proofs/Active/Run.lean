import AnchorOutline.Proofs.Active.Operation

/-!
# What a run records

* `Surroundings.events_run` : a run records what others see of its exchanges, and nothing else;
* `Surroundings.operate_of_ensures` : what an operation ensures holds of every run of it;
* `SetStore.Keeps` : a store whose list of sets only a successful write changes;
* `Surroundings.held_run` : a run that writes nothing leaves the list of such a store as it is.
-/

namespace AnchorOutline

variable {η σ α : Type}

namespace Surroundings

def transcript (w : Surroundings η σ) (d : Dialogue α) (s : Scene η σ) : List Talk :=
  Interaction.transcript w.answer d s

theorem events_answer (w : Surroundings η σ) (q : Question) (s : Scene η σ) :
    (w.answer q s).2.events = s.events ++ events [⟨q, (w.answer q s).1⟩] := by
  cases q with
  | prompt p => rfl
  | getSets => simp [answer, events, Talk.event?]
  | putSets sets =>
    simp only [answer, events, Talk.event?, List.filterMap_cons, List.filterMap_nil]
    split <;> simp_all [Scene.add]
  | note n => cases n <;> rfl
  | check holds => rfl

theorem events_run (w : Surroundings η σ) (d : Dialogue α) (s : Scene η σ) :
    (w.run d s).2.events = s.events ++ events (w.transcript d s) := by
  induction d generalizing s with
  | done a => simp [run, transcript, Interaction.run, Interaction.transcript]
  | ask q next ih =>
    have hrest := ih (w.answer q s).1 (w.answer q s).2
    rw [w.events_answer, List.append_assoc, ← events_append] at hrest
    exact hrest

/-- What an operation ensures holds of every run of it, for the events that the run adds. -/
theorem operate_of_ensures (w : Surroundings η σ) {operation : Controller → Operation}
    {c : Controller} {P : List Talk → Except OperationError Outcome × Controller → Prop}
    (h : (operation c).Ensures P) (s : Scene η σ) :
    P (w.transcript (operation c) s) ((w.operate operation c s).1, (w.operate operation c s).2.1) :=
  h.transcript w.answer s

theorem events_operate (w : Surroundings η σ) (operation : Controller → Operation)
    (c : Controller) (s : Scene η σ) : (w.operate operation c s).2.2.events =
      s.events ++ events (w.transcript (operation c) s) :=
  w.events_run (operation c) s

end Surroundings

/-! ## Stores -/

/-- A store whose list of sets, as it is found in the state and in the files, only a successful write
changes. -/
structure SetStore.Keeps (store : SetStore σ) (held : σ → Tree → List PatternSet) : Prop where
  get : ∀ s (m : Machine),
    held (m.run (store.get s)).1.2 (m.run (store.get s)).2.tree = held s m.tree
  put : ∀ sets s (m : Machine), (m.run (store.put sets s)).1.1.isOk = false →
    held (m.run (store.put sets s)).1.2 (m.run (store.put sets s)).2.tree = held s m.tree

theorem SetStore.keeps_memory : SetStore.memory.Keeps fun sets _ => sets where
  get _ _ := rfl
  put _ _ _ h := by cases h

theorem SetStore.Keeps.refusing {store : SetStore σ} {held : σ → Tree → List PatternSet}
    (h : store.Keeps held) (onGet onPut : Option String) : (store.refusing onGet onPut).Keeps held where
  get s m := by
    cases onGet with
    | none => exact h.get s m
    | some message => rfl
  put sets s m hfailed := by
    cases onPut with
    | none => exact h.put sets s m hfailed
    | some message => rfl

namespace Surroundings

variable {w : Surroundings η σ} {held : σ → Tree → List PatternSet}

theorem held_answer (hw : w.store.Keeps held) (q : Question) (s : Scene η σ)
    (h : ∀ sets, .saved sets ∉ events [⟨q, (w.answer q s).1⟩]) :
    held (w.answer q s).2.store (w.answer q s).2.machine.tree = held s.store s.machine.tree := by
  cases q with
  | prompt p => rfl
  | getSets => exact hw.get s.store s.machine
  | putSets sets =>
    have hfailed : (s.machine.run (w.store.put sets s.store)).1.1.isOk = false := by
      cases hok : (s.machine.run (w.store.put sets s.store)).1.1.isOk with
      | false => rfl
      | true => exact absurd (by simp [events, Talk.event?, answer, hok]) (h sets)
    have hkept := hw.put sets s.store s.machine hfailed
    simpa [answer, hfailed] using hkept
  | note n => cases n <;> rfl
  | check holds => rfl

theorem held_run (hw : w.store.Keeps held) (d : Dialogue α) (s : Scene η σ)
    (h : ∀ sets, .saved sets ∉ events (w.transcript d s)) :
    held (w.run d s).2.store (w.run d s).2.machine.tree = held s.store s.machine.tree := by
  induction d generalizing s with
  | done a => rfl
  | ask q next ih =>
    have hsplit : ∀ sets, .saved sets ∉ events [⟨q, (w.answer q s).1⟩] ∧
        .saved sets ∉ events (w.transcript (next (w.answer q s).1) (w.answer q s).2) := by
      intro sets
      have := h sets
      rwa [transcript, Interaction.transcript, ← List.singleton_append, events_append,
        List.mem_append, not_or] at this
    exact (ih _ _ fun sets => (hsplit sets).2).trans (held_answer hw q s fun sets => (hsplit sets).1)

end Surroundings

end AnchorOutline
