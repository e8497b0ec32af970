import AnchorOutline.Proofs.Active.Run

/-!
# All or nothing

An operation that is not applied leaves the controller, the table and the saved sets as they are,
wherever it was cancelled or failed. One that is applied changes either the controller or the saved
sets. Before anything is changed, all prompts have been shown.

* `Controller.AllOrNothing` : the law for one operation, in terms of its exchanges;
* `Controller.ensures_allOrNothing` : every operation obeys it, whatever the answers;
* `Surroundings.operate_all_or_nothing` : what that means for a run, saved sets included.
-/

namespace AnchorOutline

/-! ## What activating tells -/

/-- Exchanges that tell of providers and subscriptions, and ask nobody. -/
def Tells (t : List Talk) : Prop := ∀ x ∈ t, x.isTelling = true

@[simp] theorem tells_nil : Tells [] := by simp [Tells]

@[simp] theorem tells_append {t u : List Talk} : Tells (t ++ u) ↔ Tells t ∧ Tells u := by
  simp [Tells, or_imp, forall_and]

@[simp] theorem tells_note {n : Note} {t : List Talk} : Tells (.note n :: t) ↔ Tells t := by
  simp [Tells, Talk.isTelling, Talk.note]

@[simp] theorem tells_log {r : LogRecord} {t : List Talk} : Tells (.log r :: t) ↔ Tells t :=
  tells_note

@[simp] theorem tells_check {b : Bool} {t : List Talk} : Tells (.check b :: t) ↔ Tells t := by
  simp [Tells, Talk.isTelling, Talk.check]

theorem Tells.isPrompt {t : List Talk} (h : Tells t) : ∀ x ∈ t, x.isPrompt = false := by
  rintro ⟨q, answer⟩ hx
  have htelling := h _ hx
  cases q with
  | prompt p => cases htelling
  | getSets => rfl
  | putSets sets => rfl
  | note n => rfl
  | check holds => rfl

theorem Tells.not_saved {t : List Talk} (h : Tells t) (sets : List PatternSet) :
    .saved sets ∉ events t := by
  intro hmem
  obtain ⟨⟨q, answer⟩, hx, hevent⟩ := List.mem_filterMap.mp hmem
  have htelling := h _ hx
  cases q with
  | prompt p => cases htelling
  | getSets => cases htelling
  | putSets sets => cases htelling
  | note n => cases hevent
  | check holds => cases hevent

namespace Controller

variable {c : Controller}

theorem tells_dispose (registry : Registry) (subscription : Subscription) :
    (subscription.dispose registry).Ensures fun t _ => Tells t := by
  cases subscription with
  | baseline index =>
    simp only [Subscription.dispose, Interaction.ensures_bind, ensures_note,
      Interaction.ensures_pure]
    simp
  | registration id =>
    simp only [Subscription.dispose, Interaction.ensures_bind, ensures_note, ensures_log,
      Interaction.ensures_pure]
    simp

theorem tells_releaseLive : c.releaseLive.Ensures fun t _ => Tells t := by
  unfold releaseLive
  split
  · split
    next => exact tells_nil
    next live _ =>
      rw [Interaction.ensures_bind]
      refine (tells_dispose c.registry live).mono fun t r ht => ?_
      rw [Interaction.ensures_bind, ensures_log]
      simpa using ht
  · exact tells_nil

theorem tells_registerCurrent : c.registerCurrent.Ensures fun t _ => Tells t := by
  simp only [registerCurrent, ActiveSet.install, remark, Interaction.ensures_bind, ensures_note,
    ensures_log, ensures_check, Interaction.ensures_pure]
  simp

theorem tells_activate (patterns : List String) :
    (c.activate patterns).Ensures fun t _ => Tells t := by
  rw [activate, Interaction.ensures_bind]
  refine tells_releaseLive.mono fun t c' ht => ?_
  split
  · rw [Interaction.ensures_bind, ensures_remark]
    simpa using ht
  · exact tells_registerCurrent.mono fun u _ hu => tells_append.mpr ⟨ht, hu⟩

/-! ## The law -/

/-- What an operation on a controller may come to: its exchanges, its result and the controller that
it leaves. -/
structure AllOrNothing (c : Controller) (command : SetCommand) (t : List Talk)
    (r : Except OperationError Outcome × Controller) : Prop where
  unchanged : r.1 ≠ .ok .applied → r.2 = c ∧ ∀ e ∈ events t, e.isChange = false
  onlySaved : r.1 = .ok .applied → command = .save →
    r.2 = c ∧ ∀ e ∈ events t, e.isChange = true → ∃ sets, e = .saved sets
  notSaved : ¬ (r.1 = .ok .applied ∧ command = .save) → ∀ sets, .saved sets ∉ events t
  promptsFirst : ∃ asked acted, t = asked ++ acted ∧ (∀ x ∈ asked, x.isAct = false) ∧
    ∀ x ∈ acted, x.isPrompt = false
  skipped : r.1 = .ok .skipped → ∀ x ∈ t, x.isPrompt = false

theorem ensures_allOrNothing (c : Controller) (command : SetCommand) :
    (command.operation c).Ensures (c.AllOrNothing command) := by
  refine ensures_operation ⟨?_, ?_, ?_, ?_⟩
  · intro t result ht hresult hskipped
    exact {
      unchanged := fun _ => ⟨rfl, ht.isChange⟩
      onlySaved := fun happlied => absurd happlied hresult
      notSaved := fun _ => not_saved_of_isChange ht.isChange
      promptsFirst := ⟨t, [], (List.append_nil t).symm, ht.isAct, by simp⟩
      skipped := hskipped }
  · intro _ t e ht
    obtain ⟨id, sets⟩ := ht
    have hquiet : ∀ e' ∈ [Event.prompted (.text (some "Name for this pattern set") none)],
        e'.isChange = false := by simp [Event.isChange]
    exact {
      unchanged := fun _ => ⟨rfl, hquiet⟩
      onlySaved := fun happlied => by cases happlied
      notSaved := fun _ => not_saved_of_isChange hquiet
      promptsFirst := ⟨[.prompt _ _], [.getSets _, .putSets _ _], rfl,
        by simp [Talk.isAct, Talk.prompt], by simp [Talk.isPrompt, Talk.getSets, Talk.putSets]⟩
      skipped := fun hskipped => by cases hskipped }
  · intro t patterns ht
    have hcommand : command ≠ .save := by rintro rfl; cases ht
    refine (tells_activate patterns).mono fun u c' hu => ?_
    exact {
      unchanged := fun hresult => absurd rfl hresult
      onlySaved := fun _ hsave => absurd hsave hcommand
      notSaved := fun _ sets => by
        rw [events_append, List.mem_append, not_or]
        exact ⟨not_saved_of_isChange ht.asks.isChange sets, hu.not_saved sets⟩
      promptsFirst := ⟨t, u, rfl, ht.asks.isAct, hu.isPrompt⟩
      skipped := fun hskipped => by cases hskipped }
  · intro hcommand t ht
    obtain ⟨id, sets, record, -, -⟩ := ht
    exact {
      unchanged := fun hresult => absurd rfl hresult
      onlySaved := fun _ _ => ⟨rfl, by simp [Event.isChange]⟩
      notSaved := fun hsave => absurd ⟨rfl, hcommand⟩ hsave
      promptsFirst := ⟨[.prompt _ _], [.getSets _, .putSets _ _, .log record], rfl,
        by simp [Talk.isAct, Talk.prompt],
        by simp [Talk.isPrompt, Talk.getSets, Talk.putSets, Talk.log, Talk.note]⟩
      skipped := fun hskipped => by cases hskipped }

end Controller

/-! ## Runs -/

/-- An operation that is not applied leaves the controller and the saved sets as they are and does
nothing on the way; one that saves leaves the controller as it is, any other leaves the saved sets;
all prompts come before anything is done, and none where there is nothing to do. -/
theorem Surroundings.operate_all_or_nothing {η σ : Type} (w : Surroundings η σ)
    (held : σ → Tree → List PatternSet) (hw : w.store.Keeps held) (command : SetCommand)
    (c : Controller) (s : Scene η σ) :
    ∃ result c' s', w.operate command.operation c s = (result, c', s') ∧
      let t := w.transcript (command.operation c) s
      s'.events = s.events ++ events t ∧
      (result ≠ .ok .applied → c' = c ∧
        held s'.store s'.machine.tree = held s.store s.machine.tree ∧
        ∀ e ∈ events t, e.isChange = false) ∧
      (result = .ok .applied → command = .save →
        c' = c ∧ ∀ e ∈ events t, e.isChange = true → ∃ sets, e = .saved sets) ∧
      (result = .ok .applied → command ≠ .save →
        held s'.store s'.machine.tree = held s.store s.machine.tree ∧
        ∀ sets, .saved sets ∉ events t) ∧
      (∃ asked acted, t = asked ++ acted ∧ (∀ x ∈ asked, x.isAct = false) ∧
        ∀ x ∈ acted, x.isPrompt = false) ∧
      (result = .ok .skipped → ∀ x ∈ t, x.isPrompt = false) := by
  have hlaw := w.operate_of_ensures (c.ensures_allOrNothing command) s
  have hheld := held_run hw (command.operation c) s
  refine ⟨_, _, _, rfl, w.events_operate command.operation c s, ?_, hlaw.onlySaved, ?_,
    hlaw.promptsFirst, hlaw.skipped⟩
  · intro hresult
    obtain ⟨hc, hquiet⟩ := hlaw.unchanged hresult
    exact ⟨hc, hheld (not_saved_of_isChange hquiet), hquiet⟩
  · intro _ hcommand
    have hsaved := hlaw.notSaved fun happlied => hcommand happlied.2
    exact ⟨hheld hsaved, hsaved⟩

/-- A name is given for the active patterns, and then the sets cannot be written. -/
theorem Surroundings.refused_save_changes_nothing :
    let w := Surroundings.scripted (SetStore.memory.refusing none (some "read-only"))
    let c : Controller := { set := ⟨0, ["TODO"], []⟩ }
    let s : Scene _ _ := { host := [.ok (.submitted "notes")], store := [⟨"old", []⟩] }
    let (result, c', s') := w.operate Controller.save c s
    w.store.Keeps (fun sets _ => sets) ∧ result = .error (.store (.refused "read-only")) ∧
      c' = c ∧ s'.store = s.store := by
  intro w c s
  have hkeeps : w.store.Keeps fun sets _ => sets :=
    SetStore.keeps_memory.refusing none (some "read-only")
  obtain ⟨result, c', s', hrun, -, hunchanged, -⟩ :=
    w.operate_all_or_nothing (fun sets _ => sets) hkeeps .save c s
  have hresult : result = .error (.store (.refused "read-only")) :=
    (congrArg Prod.fst hrun).symm.trans rfl
  obtain ⟨hc, hheld, -⟩ := hunchanged (by rw [hresult]; exact nofun)
  have hrun' : w.operate Controller.save c s = (result, c', s') := hrun
  rw [hrun']
  exact ⟨hkeeps, hresult, hc, hheld⟩

end AnchorOutline
