import AnchorOutline.Proofs.Active.Operation

/-!
# One provider for the active patterns

Between operations a controller has its baseline subscriptions and above them at most one more, the
registration of a provider with just the active patterns. A table that others use too holds this
one entry of the controller beside theirs.

* `Controller.Holds` : the subscriptions of a controller;
* `Controller.ensures_activate` : what making patterns the active ones does;
* `Controller.Sound` : what is true of a controller between operations;
* `Controller.Sound.ensures_operation` : every operation keeps it, and the entries of others.
-/

namespace AnchorOutline

/-! ## Subscriptions -/

def baselines (n : Nat) : List Subscription := (List.range n).map .baseline

/-- What is done in exchanges, prompts and log records aside. -/
def doings (t : List Talk) : List Event := (events t).filter (!·.isAsking)

@[simp] theorem doings_append (t u : List Talk) : doings (t ++ u) = doings t ++ doings u := by
  simp [doings]

theorem mem_doings {t : List Talk} {e : Event} :
    e ∈ doings t ↔ e ∈ events t ∧ e.isAsking = false := by
  simp [doings]

/-- The table without the live registration, if there is one. -/
def Registry.release (r : Registry) : Option Nat → Registry
  | none => r
  | some id => r.dispose id

@[simp] theorem Registry.nextId_release (r : Registry) (live : Option Nat) :
    (r.release live).nextId = r.nextId := by
  cases live <;> rfl

namespace Controller

/-- A controller with `n` subscriptions to begin with, and its live registration above them. -/
structure Holds (c : Controller) (n : Nat) (live : Option Nat) : Prop where
  baseline : c.set.baseline = n
  subscriptions : c.set.subscriptions = baselines n ++ (live.map .registration).toList

variable {c : Controller} {n : Nat} {live : Option Nat}

theorem Holds.hasLive (h : c.Holds n live) : c.set.hasLive = live.isSome := by
  rw [ActiveSet.hasLive, h.baseline, h.subscriptions]
  cases live with
  | none => simp [baselines]
  | some id => simp [baselines]

/-- The controller without its live registration. -/
def released (c : Controller) (n : Nat) (live : Option Nat) : Controller :=
  { c with
    set := { c.set with subscriptions := baselines n }
    registry := c.registry.release live }

/-- The controller with a registration for the active patterns. -/
def registered (c : Controller) : Controller :=
  { c with
    set := { c.set with subscriptions := c.set.subscriptions ++ [.registration c.registry.nextId] }
    registry := (c.registry.register c.selector ⟨c.current⟩).2 }

theorem ensures_releaseLive (h : c.Holds n live) :
    c.releaseLive.Ensures fun t c' => c' = c.released n live ∧
      doings t = live.toList.map fun id => .noted (.disposed id) := by
  unfold releaseLive
  rw [h.hasLive]
  cases live with
  | none =>
    have hc : c = c.released n none := by
      have := h.subscriptions
      simp only [Option.map_none, Option.toList_none, List.append_nil] at this
      rw [released, ← this]
      rfl
    exact ⟨hc, rfl⟩
  | some id =>
    have hlast : c.set.subscriptions.getLast? = some (.registration id) := by
      rw [h.subscriptions]
      simp
    have hinit : c.set.subscriptions.dropLast = baselines n := by
      rw [h.subscriptions]
      simp
    rw [Option.isSome_some, if_pos rfl, hlast]
    intro _ _ _
    exact ⟨by rw [hinit]; rfl, rfl⟩

theorem ensures_registerCurrent :
    c.registerCurrent.Ensures fun t c' => c' = c.registered ∧
      doings t = [.noted (.registered c.registry.nextId c.selector c.current),
        .checked (!c.set.hasLive)] := by
  intro _ _ _ _
  exact ⟨rfl, rfl⟩

/-- The controller with other active patterns. -/
def switched (c : Controller) (n : Nat) (live : Option Nat) (patterns : List String) : Controller :=
  let c := released { c with set := { c.set with current := patterns } } n live
  if patterns = [] then c else c.registered

theorem Holds.withCurrent (h : c.Holds n live) (patterns : List String) :
    Holds { c with set := { c.set with current := patterns } } n live :=
  ⟨h.baseline, h.subscriptions⟩

theorem Holds.released (h : c.Holds n live) : (c.released n live).Holds n none :=
  ⟨h.baseline, by simp [Controller.released]⟩

theorem Holds.registered (h : c.Holds n none) :
    c.registered.Holds n (some c.registry.nextId) := by
  refine ⟨h.baseline, ?_⟩
  have hsubscriptions := h.subscriptions
  simp only [Option.map_none, Option.toList_none, List.append_nil] at hsubscriptions
  rw [Controller.registered, hsubscriptions]
  rfl

theorem Holds.switched (h : c.Holds n live) (patterns : List String) :
    (c.switched n live patterns).Holds n
      (if patterns = [] then none else some c.registry.nextId) := by
  have hreleased := (h.withCurrent patterns).released
  unfold Controller.switched
  split
  · exact hreleased
  · have hregistered := hreleased.registered
    rwa [Controller.released, Registry.nextId_release] at hregistered

theorem current_switched (n : Nat) (live : Option Nat) (patterns : List String) :
    (c.switched n live patterns).current = patterns := by
  unfold switched
  split <;> rfl

/-- The live registration is given up first, and then another one is made unless there are no
patterns. -/
theorem ensures_activate (h : c.Holds n live) (patterns : List String) :
    (c.activate patterns).Ensures fun t c' => c' = c.switched n live patterns ∧
      doings t = (live.toList.map fun id => .noted (.disposed id)) ++
        if patterns = [] then []
        else [.noted (.registered c.registry.nextId c.selector patterns), .checked true] := by
  rw [activate, Interaction.ensures_bind]
  refine (ensures_releaseLive (h.withCurrent patterns)).mono fun t c₁ ⟨hc₁, ht⟩ => ?_
  subst hc₁
  unfold switched
  by_cases hempty : patterns = []
  · subst hempty
    intro _
    exact ⟨rfl, by rw [doings_append, ht]; rfl⟩
  · rw [if_neg (by simpa using hempty), if_neg hempty, if_neg hempty]
    refine ensures_registerCurrent.mono fun u c₂ ⟨hc₂, hu⟩ => ⟨hc₂, ?_⟩
    have hidle := (h.withCurrent patterns).released.hasLive
    rw [doings_append, ht, hu, hidle]
    simp [released, current]

end Controller

/-! ## The table -/

namespace Registry

/-- The entries of others, who know their registrations by number. -/
def others (foreign : List Nat) (r : Registry) : List Registration :=
  r.entries.filter (·.id ∈ foreign)

/-- The entries that nobody else has made. -/
def own (foreign : List Nat) (r : Registry) : List Registration :=
  r.entries.filter (·.id ∉ foreign)

variable {foreign : List Nat} {r : Registry}

theorem others_dispose {id : Nat} (h : id ∉ foreign) :
    (r.dispose id).others foreign = r.others foreign := by
  rw [others, dispose, List.filter_filter]
  refine List.filter_congr fun e _ => ?_
  by_cases he : e.id ∈ foreign
  · have hne : e.id ≠ id := fun heq => h (heq ▸ he)
    simp [he, hne]
  · simp [he]

theorem own_dispose_foreign {id : Nat} (h : id ∈ foreign) :
    (r.dispose id).own foreign = r.own foreign := by
  rw [own, dispose, List.filter_filter]
  refine List.filter_congr fun e _ => ?_
  by_cases he : e.id ∈ foreign
  · simp [he]
  · have hne : e.id ≠ id := fun heq => he (heq ▸ h)
    simp [he, hne]

theorem own_dispose (id : Nat) :
    (r.dispose id).own foreign = (r.own foreign).filter (·.id != id) := by
  simp only [own, dispose, List.filter_filter, Bool.and_comm]

/-- Numbers that are still to come are in nobody's hands. -/
structure Numbered (foreign : List Nat) (r : Registry) : Prop where
  entries : ∀ e ∈ r.entries, e.id < r.nextId
  foreign : ∀ id ∈ foreign, id < r.nextId

theorem Numbered.next_not_mem (h : r.Numbered foreign) : r.nextId ∉ foreign :=
  fun hmem => Nat.lt_irrefl _ (h.foreign _ hmem)

theorem Numbered.dispose (h : r.Numbered foreign) (id : Nat) : (r.dispose id).Numbered foreign :=
  ⟨fun e he => h.entries e (List.mem_of_mem_filter he), h.foreign⟩

theorem Numbered.release (h : r.Numbered foreign) (live : Option Nat) :
    (r.release live).Numbered foreign := by
  cases live with
  | none => exact h
  | some id => exact h.dispose id

theorem Numbered.register (h : r.Numbered foreign) (selector : Selector) (p : Provider) :
    (r.register selector p).2.Numbered foreign := by
  refine ⟨fun e he => ?_, fun id hid => Nat.lt_succ_of_lt (h.foreign id hid)⟩
  rcases List.mem_append.mp he with he | he
  · exact Nat.lt_succ_of_lt (h.entries e he)
  · rw [List.mem_singleton.mp he]
    exact Nat.lt_succ_self _

theorem Numbered.others_register (h : r.Numbered foreign) (selector : Selector) (p : Provider) :
    (r.register selector p).2.others foreign = r.others foreign := by
  simp [others, Registry.register, h.next_not_mem]

theorem Numbered.own_register (h : r.Numbered foreign) (selector : Selector) (p : Provider) :
    (r.register selector p).2.own foreign = r.own foreign ++ [⟨r.nextId, selector, p⟩] := by
  simp [own, Registry.register, h.next_not_mem]

theorem Numbered.register_foreign (h : r.Numbered foreign) (selector : Selector) (p : Provider) :
    (r.register selector p).2.Numbered (foreign ++ [r.nextId]) := by
  refine ⟨(h.register selector p).entries, fun id hid => ?_⟩
  rcases List.mem_append.mp hid with hid | hid
  · exact (h.register selector p).foreign id hid
  · rw [List.mem_singleton.mp hid]
    exact Nat.lt_succ_self _

theorem Numbered.own_register_foreign (h : r.Numbered foreign) (selector : Selector)
    (p : Provider) :
    (r.register selector p).2.own (foreign ++ [r.nextId]) = r.own foreign := by
  have hnew : ([⟨r.nextId, selector, p⟩] : List Registration).filter
      (·.id ∉ foreign ++ [r.nextId]) = [] := by simp
  rw [own, Registry.register, List.filter_append, hnew, List.append_nil]
  refine List.filter_congr fun e he => ?_
  have hne : e.id ≠ r.nextId := Nat.ne_of_lt (h.entries e he)
  simp [hne]

end Registry

/-! ## Between operations -/

namespace Controller

/-- What is true of a controller between operations, the numbers in `foreign` being those of
registrations that others made: it has the subscriptions that it began with and at most one more,
one just if there are active patterns, and this one stands for its only entry in the table. -/
structure Sound (c : Controller) (n : Nat) (selector : Selector) (foreign : List Nat) : Prop where
  numbered : c.registry.Numbered foreign
  selector_eq : c.selector = selector
  live : ∃ live, c.Holds n live ∧ (live = none ↔ c.current = []) ∧
    c.registry.own foreign = (live.map fun id => ⟨id, selector, ⟨c.current⟩⟩).toList

variable {c : Controller} {n : Nat} {live : Option Nat} {selector : Selector} {foreign : List Nat}

theorem sound_initial (n : Nat) (selector : Selector) :
    Sound { Controller.initial n with selector := selector } n selector [] := by
  refine ⟨⟨by simp [Controller.initial], by simp⟩, rfl, none, ⟨rfl, ?_⟩, ?_, rfl⟩
  · simp [Controller.initial, ActiveSet.initial, baselines]
  · simp [Controller.initial, ActiveSet.initial, current]

/-- What others do to the table is no matter as long as the entry of the controller stays. -/
theorem Sound.withRegistry (h : c.Sound n selector foreign) {r : Registry} {foreign' : List Nat}
    (hnumbered : r.Numbered foreign') (hown : r.own foreign' = c.registry.own foreign) :
    Sound { c with registry := r } n selector foreign' := by
  obtain ⟨live, hholds, hcurrent, hlive⟩ := h.live
  exact ⟨hnumbered, h.selector_eq, live, ⟨hholds.baseline, hholds.subscriptions⟩, hcurrent,
    hown.trans hlive⟩

theorem live_not_foreign {id : Nat} {p : Provider}
    (h : c.registry.own foreign = [⟨id, selector, p⟩]) : id ∉ foreign := by
  have hmem : (⟨id, selector, p⟩ : Registration) ∈ c.registry.own foreign := by simp [h]
  simpa using (List.mem_filter.mp hmem).2

theorem own_release (h : c.registry.own foreign =
    (live.map fun id => (⟨id, selector, ⟨c.current⟩⟩ : Registration)).toList) :
    (c.registry.release live).own foreign = [] ∧
      (c.registry.release live).others foreign = c.registry.others foreign := by
  cases live with
  | none => exact ⟨h, rfl⟩
  | some id =>
    have hid := live_not_foreign h
    refine ⟨?_, Registry.others_dispose hid⟩
    rw [Registry.release, Registry.own_dispose, h]
    simp

theorem Sound.switched (h : c.Sound n selector foreign) (patterns : List String) :
    ∃ live, c.Holds n live ∧ (c.switched n live patterns).Sound n selector foreign ∧
      (c.switched n live patterns).registry.others foreign = c.registry.others foreign := by
  obtain ⟨live, hholds, -, hown⟩ := h.live
  obtain ⟨hownReleased, hothers⟩ := own_release hown
  have hnumbered := h.numbered.release live
  have hnext := hholds.switched patterns
  refine ⟨live, hholds, ?_⟩
  unfold Controller.switched at hnext ⊢
  by_cases hempty : patterns = []
  · simp only [hempty, if_true] at hnext ⊢
    exact ⟨⟨hnumbered, h.selector_eq, none, hnext, by simp [current, released], hownReleased⟩, hothers⟩
  · simp only [hempty, if_false] at hnext ⊢
    refine ⟨⟨hnumbered.register _ _, h.selector_eq, _, hnext, ?_, ?_⟩, ?_⟩
    · simp [current, released, registered, hempty]
    · refine (hnumbered.own_register _ _).trans ?_
      rw [hownReleased]
      simp [current, released, registered, h.selector_eq]
    · exact (hnumbered.others_register _ _).trans hothers

/-! ## Operations -/

/-- No condition turned out not to hold. -/
def ChecksHold (t : List Talk) : Prop := ∀ e ∈ events t, e ≠ .checked false

theorem checksHold_append {t u : List Talk} :
    ChecksHold (t ++ u) ↔ ChecksHold t ∧ ChecksHold u := by
  simp [ChecksHold, or_imp, forall_and]

theorem checksHold_of_asks {t : List Talk} (h : Asks t) : ChecksHold t := by
  rintro e he rfl
  cases h.isAsking _ he

theorem checksHold_of_saves {t : List Talk} (h : c.Saves t) : ChecksHold t := by
  obtain ⟨id, sets, record, -, -⟩ := h
  simp [ChecksHold]

theorem checksHold_of_refused {t : List Talk} {e : StoreError} (h : c.Refused t e) :
    ChecksHold t := by
  obtain ⟨id, sets⟩ := h
  simp [ChecksHold]

/-- What an operation leaves and tells: a sound controller, the entries of others as they were, and
no condition that did not hold. -/
def Kept (c : Controller) (n : Nat) (selector : Selector) (foreign : List Nat) (t : List Talk)
    (c' : Controller) : Prop :=
  c'.Sound n selector foreign ∧ c'.registry.others foreign = c.registry.others foreign ∧
    ChecksHold t

theorem Sound.kept (h : c.Sound n selector foreign) {t : List Talk} (ht : ChecksHold t) :
    c.Kept n selector foreign t c :=
  ⟨h, rfl, ht⟩

theorem Sound.ensures_activate (h : c.Sound n selector foreign) (patterns : List String) :
    (c.activate patterns).Ensures (c.Kept n selector foreign) := by
  obtain ⟨live, hholds, hsound, hothers⟩ := h.switched patterns
  refine (Controller.ensures_activate hholds patterns).mono fun t c' ⟨hc', ht⟩ => ?_
  subst hc'
  refine ⟨hsound, hothers, ?_⟩
  rintro e he rfl
  have hmem : Event.checked false ∈ doings t := mem_doings.mpr ⟨he, rfl⟩
  rw [ht] at hmem
  split at hmem <;> simp at hmem

/-- Every operation keeps a controller sound and the entries of others as they are. -/
theorem Sound.ensures_operation (h : c.Sound n selector foreign) (command : SetCommand) :
    (command.operation c).Ensures fun t r => c.Kept n selector foreign t r.2 := by
  refine Controller.ensures_operation ⟨?_, ?_, ?_, ?_⟩
  · intro t result ht _ _
    exact h.kept (checksHold_of_asks ht)
  · intro _ t e ht
    exact h.kept (checksHold_of_refused ht)
  · intro t patterns ht
    refine (h.ensures_activate patterns).mono fun u c' ⟨hsound, hothers, hu⟩ => ?_
    exact ⟨hsound, hothers, checksHold_append.mpr ⟨checksHold_of_asks ht.asks, hu⟩⟩
  · intro _ t ht
    exact h.kept (checksHold_of_saves ht)

end Controller

end AnchorOutline
