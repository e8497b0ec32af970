import AnchorOutline.Proofs.Active.Registration
import AnchorOutline.Proofs.Active.Run

/-!
# A table that is shared

Others who hold the same table register and dispose their own providers between the operations of
a controller. None of this gets in the way of the other: the controller always has its baseline
subscriptions, a live registration just while there are active patterns, and the one entry for it.

* `Move` : an operation in any surroundings, or something that others do to the table;
* `Sharing` : the controller, the handles and registrations of others, and what happened;
* `Sharing.run` : any moves in any order;
* `Sharing.run_keeps_registration` : what holds after any moves.
-/

namespace AnchorOutline

/-- An operation, whoever answers prompts and whatever store is used, or something that others do to
the table. -/
inductive Move (η σ : Type) where
  | operate (command : SetCommand) (w : Surroundings η σ) (host : η) (store : σ) (machine : Machine)
  | others (action : HandledRegistry.Action)

/-- A controller whose table is shared: the handles of others, the numbers of all registrations that
they ever made, and what happened in the operations. -/
structure Sharing where
  controller : Controller
  handles : List (Option Nat) := []
  foreign : List Nat := []
  events : List Event := []

namespace Sharing

variable {η σ : Type}

/-- A controller with `n` subscriptions to begin with, for the documents that a selector selects. -/
def start (n : Nat) (selector : Selector) : Sharing :=
  { controller := { Controller.initial n with selector := selector } }

def operate (s : Sharing) (command : SetCommand) (w : Surroundings η σ) (scene : Scene η σ) :
    Sharing :=
  let (_, controller, scene) := w.operate command.operation s.controller scene
  { s with controller := controller, events := scene.events }

def act (s : Sharing) (action : HandledRegistry.Action) : Sharing :=
  let r := HandledRegistry.act ⟨s.controller.registry, s.handles⟩ action
  let made := match action with
    | .register .. => [s.controller.registry.nextId]
    | _ => []
  { s with
    controller := { s.controller with registry := r.registry }
    handles := r.handles
    foreign := s.foreign ++ made }

def move (s : Sharing) : Move η σ → Sharing
  | .operate command w host store machine => s.operate command w ⟨host, store, machine, s.events⟩
  | .others action => s.act action

def run (s : Sharing) (moves : List (Move η σ)) : Sharing := moves.foldl move s

def own (s : Sharing) : List Registration := s.controller.registry.own s.foreign

def others (s : Sharing) : List Registration := s.controller.registry.others s.foreign

/-! ## What every move keeps -/

/-- The invariant: a sound controller, handles that are those of others, and no condition that did
not hold. -/
structure Sound (s : Sharing) (n : Nat) (selector : Selector) : Prop where
  controller : s.controller.Sound n selector s.foreign
  handles : ∀ id, some id ∈ s.handles → id ∈ s.foreign
  checks : ∀ e ∈ s.events, e ≠ .checked false

variable {s : Sharing} {n : Nat} {selector : Selector}

theorem Sound.operate (h : s.Sound n selector) (command : SetCommand) (w : Surroundings η σ)
    {scene : Scene η σ} (hscene : scene.events = s.events) :
    (s.operate command w scene).Sound n selector ∧
      (s.operate command w scene).others = s.others := by
  obtain ⟨hsound, hothers, hchecks⟩ :=
    w.operate_of_ensures (h.controller.ensures_operation command) scene
  refine ⟨⟨hsound, h.handles, fun e he => ?_⟩, hothers⟩
  have hevents : (s.operate command w scene).events =
      s.events ++ AnchorOutline.events (w.transcript (command.operation s.controller) scene) :=
    (w.events_operate command.operation s.controller scene).trans (by rw [hscene])
  rw [hevents, List.mem_append] at he
  rcases he with he | he
  · exact h.checks e he
  · exact hchecks e he

theorem mem_of_held? {r : HandledRegistry} {k id : Nat} (h : r.held? k = some id) :
    some id ∈ r.handles :=
  List.mem_of_getElem? (Option.join_eq_some_iff.mp h)

/-- Others may only add entries of their own and remove these. -/
theorem Sound.act (h : s.Sound n selector) (action : HandledRegistry.Action) :
    (s.act action).Sound n selector := by
  have hnumbered := h.controller.numbered
  have hspent : ∀ k id, some id ∈ s.handles.set k none → id ∈ s.foreign := by
    intro k id hid
    rcases List.mem_or_eq_of_mem_set hid with hid | hid
    · exact h.handles id hid
    · cases hid
  cases action with
  | register selector' p =>
    refine ⟨h.controller.withRegistry (hnumbered.register_foreign selector' p)
      (hnumbered.own_register_foreign selector' p), fun id hid => ?_, h.checks⟩
    rcases List.mem_append.mp hid with hid | hid
    · exact List.mem_append_left _ (h.handles id hid)
    · obtain rfl : id = s.controller.registry.nextId := by simpa using hid
      exact List.mem_append_right _ (List.mem_singleton_self _)
  | dispose k =>
    cases hheld : HandledRegistry.held? ⟨s.controller.registry, s.handles⟩ k with
    | none => simpa [Sharing.act, HandledRegistry.act, hheld] using h
    | some id =>
      have hid : id ∈ s.foreign := h.handles id (mem_of_held? hheld)
      simp only [Sharing.act, HandledRegistry.act, hheld, List.append_nil]
      exact ⟨h.controller.withRegistry (hnumbered.dispose id) (Registry.own_dispose_foreign hid),
        hspent k, h.checks⟩
  | letGo k =>
    simp only [Sharing.act, HandledRegistry.act, List.append_nil]
    exact ⟨h.controller, hspent k, h.checks⟩
  | clone => simpa [Sharing.act, HandledRegistry.act] using h

theorem Sound.move (h : s.Sound n selector) (m : Move η σ) : (s.move m).Sound n selector := by
  cases m with
  | operate command w host store machine => exact (h.operate command w rfl).1
  | others action => exact h.act action

theorem sound_run (n : Nat) (selector : Selector) (moves : List (Move η σ)) :
    ((start n selector).run moves).Sound n selector := by
  induction moves using List.reverseRecOn with
  | nil => exact ⟨Controller.sound_initial n selector, by simp [run, start], by simp [run, start]⟩
  | append_singleton moves m ih =>
    rw [run, List.foldl_append]
    exact ih.move m

/-! ## After any moves -/

/-- After any moves a controller has the subscriptions that it began with and at most one more, which
stands for its entry in the table. It has this one just if there are active patterns, and the entry is
for them. An operation leaves the entries of others as they are, and no condition ever failed to
hold. -/
theorem run_keeps_registration (n : Nat) (selector : Selector) (moves : List (Move η σ)) :
    let s := (start n selector).run moves
    (∃ live : Option Nat,
      s.controller.set.subscriptions = baselines n ++ (live.map .registration).toList ∧
        s.own.map Registration.id = live.toList) ∧
      (s.controller.set.hasLive = true ↔ s.controller.current ≠ []) ∧
      (s.own.map fun e => (e.selector, e.provider.patterns)) =
        (if s.controller.current = [] then [] else [(selector, s.controller.current)]) ∧
      (∀ (command : SetCommand) (w : Surroundings η σ) (host : η) (store : σ) (machine : Machine),
        (s.move (.operate command w host store machine)).others = s.others) ∧
      ∀ e ∈ s.events, e ≠ .checked false := by
  intro s
  have hs : s.Sound n selector := sound_run n selector moves
  obtain ⟨live, hholds, hlive, hown⟩ := hs.controller.live
  have hentries : s.own = (live.map fun id => ⟨id, selector, ⟨s.controller.current⟩⟩).toList := hown
  refine ⟨⟨live, hholds.subscriptions, ?_⟩, ?_, ?_, ?_, hs.checks⟩
  · rw [hentries]
    cases live with
    | none => rfl
    | some id => rfl
  · rw [hholds.hasLive, ne_eq, ← hlive, Option.isSome_iff_ne_none]
  · rw [hentries]
    cases live with
    | none =>
      rw [if_pos (hlive.mp rfl)]
      rfl
    | some id =>
      have hactive : s.controller.current ≠ [] := fun hempty => by cases hlive.mpr hempty
      rw [if_neg hactive]
      rfl
  · intro command w host store machine
    exact (hs.operate command w rfl).2

end Sharing

end AnchorOutline
