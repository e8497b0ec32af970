import AnchorOutline.Proofs.Active.Sharing

/-!
# Registering and giving up

A controller registers providers one after the other. It gives up each before it registers the next,
and never touches what it was subscribed to before. Only its end gives up the rest, the last
registration first.

* `calls` : what is registered and given up, in order;
* `Controller.Holds.ensures_calls` : the calls of an operation;
* `Controller.Holds.ensures_shutdown` : the calls at the end;
* `Lease`, `alternation` : registrations of which each is given up before the next;
* `Sharing.Alternates` : a run whose calls are such, which every move keeps;
* `Sharing.ended` : the calls of a run that ends;
* `Sharing.run_alternates` : the calls of any run, and of its end.
-/

namespace AnchorOutline

/-! ## Calls -/

/-- What is registered and given up, in order. -/
def calls (events : List Event) : List Note :=
  events.filterMap fun
    | .noted (.log _) => none
    | .noted n => some n
    | _ => none

@[simp] theorem calls_append (es fs : List Event) : calls (es ++ fs) = calls es ++ calls fs :=
  List.filterMap_append

theorem calls_doings (t : List Talk) : calls (doings t) = calls (events t) := by
  rw [calls, doings, List.filterMap_filter]
  refine List.filterMap_congr fun e _ => ?_
  cases e with
  | noted n => cases n <;> rfl
  | _ => rfl

theorem calls_of_isChange {es : List Event} (h : ∀ e ∈ es, e.isChange = false) : calls es = [] := by
  refine List.filterMap_eq_nil_iff.mpr fun e he => ?_
  have hquiet := h e he
  cases e with
  | noted n => cases n <;> first | rfl | cases hquiet
  | _ => rfl

def Subscription.disposal : Subscription → Note
  | baseline index => .disposedBaseline index
  | registration id => .disposed id

namespace Controller

variable {c : Controller} {n : Nat} {live : Option Nat}

def swap (c : Controller) (live : Option Nat) (patterns : List String) : List Note :=
  live.toList.map .disposed ++
    if patterns = [] then [] else [.registered c.registry.nextId c.selector patterns]

theorem Holds.ensures_activate_calls (h : c.Holds n live) (patterns : List String) :
    (c.activate patterns).Ensures fun t c' =>
      c' = c.switched n live patterns ∧ calls (events t) = c.swap live patterns := by
  refine (ensures_activate h patterns).mono fun t c' ⟨hc', ht⟩ => ⟨hc', ?_⟩
  rw [← calls_doings, ht, swap, calls_append]
  cases live <;> split <;> rfl

/-- What an operation may do to a controller, and its calls: an operation that is applied, other than
saving, makes other patterns the active ones; all others do nothing. -/
def Swaps (c : Controller) (n : Nat) (live : Option Nat) (command : SetCommand) (t : List Talk)
    (r : Except OperationError Outcome × Controller) : Prop :=
  if r.1 = .ok .applied ∧ command ≠ .save then
    r.2 = c.switched n live r.2.current ∧ calls (events t) = c.swap live r.2.current
  else r.2 = c ∧ calls (events t) = []

theorem Holds.ensures_calls (h : c.Holds n live) (command : SetCommand) :
    (command.operation c).Ensures (c.Swaps n live command) := by
  refine ensures_operation ⟨?_, ?_, ?_, ?_⟩
  · intro t result ht hresult _
    rw [Swaps, if_neg fun happlied => hresult happlied.1]
    exact ⟨rfl, calls_of_isChange ht.isChange⟩
  · rintro - t e ⟨id, sets⟩
    rw [Swaps, if_neg (by simp)]
    exact ⟨rfl, rfl⟩
  · intro t patterns ht
    have hcommand : command ≠ .save := by rintro rfl; cases ht
    refine (h.ensures_activate_calls patterns).mono fun u c' ⟨hc', hu⟩ => ?_
    subst hc'
    rw [Swaps, if_pos ⟨rfl, hcommand⟩, current_switched, events_append, calls_append,
      calls_of_isChange ht.asks.isChange, hu]
    exact ⟨rfl, rfl⟩
  · rintro rfl t ⟨id, sets, record, -, -⟩
    rw [Swaps, if_neg (by simp)]
    exact ⟨rfl, rfl⟩

/-! ## The end -/

theorem ensures_dispose (registry : Registry) (s : Subscription) :
    (s.dispose registry).Ensures fun t _ => calls (events t) = [s.disposal] := by
  cases s with
  | baseline index => exact fun _ => rfl
  | registration id => exact fun _ _ => rfl

theorem ensures_disposals (registry : Registry) (subscriptions : List Subscription) :
    (subscriptions.foldlM Subscription.dispose registry).Ensures fun t _ =>
      calls (events t) = subscriptions.map Subscription.disposal := by
  induction subscriptions generalizing registry with
  | nil => rfl
  | cons s rest ih =>
    rw [List.foldlM_cons, Interaction.ensures_bind]
    refine (ensures_dispose registry s).mono fun t registry' ht => ?_
    refine (ih registry').mono fun u _ hu => ?_
    rw [events_append, calls_append, ht, hu]
    rfl

/-- The end gives up the live registration, and then what was there at the beginning, the last one
first. -/
theorem Holds.ensures_shutdown (h : c.Holds n live) :
    c.shutdown.Ensures fun t _ => calls (events t) =
      live.toList.map .disposed ++ (List.range n).reverse.map .disposedBaseline := by
  rw [shutdown, ActiveSet.shutdown, Interaction.ensures_bind]
  refine (ensures_disposals c.registry _).mono fun t registry ht => ?_
  intro _
  have hlog : calls (events (t ++ [Talk.log ⟨.info, ActiveSet.logTarget, "Session shut down"⟩])) =
      calls (events t) := by
    rw [events_append, calls_append]
    exact List.append_nil _
  refine hlog.trans (ht.trans ?_)
  rw [h.subscriptions, List.reverse_append, List.map_append, baselines, ← List.map_reverse,
    List.map_map]
  cases live <;> rfl

end Controller

/-! ## One registration after the other -/

/-- A registration of a controller: its number, and the patterns that it is for. -/
structure Lease where
  id : Nat
  patterns : List String

namespace Lease

def start (selector : Selector) (r : Lease) : Note := .registered r.id selector r.patterns

def finish (r : Lease) : Note := .disposed r.id

end Lease

/-- Registrations each of which is given up before the next. The live one, if any, is not. -/
def alternation (selector : Selector) (past : List Lease) (live : Option Lease) : List Note :=
  past.flatMap (fun r => [r.start selector, r.finish]) ++ live.toList.map (Lease.start selector)

def registrations (notes : List Note) : List Nat :=
  notes.filterMap fun
    | .registered id _ _ => some id
    | _ => none

/-- The numbers of what is registered and not given up. -/
def undisposed (notes : List Note) : List Nat :=
  (registrations notes).filter fun id => .disposed id ∉ notes

section Alternation

variable {selector : Selector} {past : List Lease} {live : Option Lease}

theorem alternation_cons (r : Lease) :
    alternation selector (r :: past) live =
      r.start selector :: r.finish :: alternation selector past live := rfl

theorem map_disposed_id (live : Option Lease) :
    (live.map Lease.id).toList.map Note.disposed = live.toList.map Lease.finish := by
  cases live <;> rfl

theorem alternation_finish (past : List Lease) (live : Option Lease) :
    alternation selector past live ++ live.toList.map Lease.finish =
      alternation selector (past ++ live.toList) none := by
  cases live <;> simp [alternation]

theorem alternation_start (past : List Lease) (live : Option Lease) :
    alternation selector past none ++ live.toList.map (Lease.start selector) =
      alternation selector past live := by
  simp [alternation]

theorem registrations_alternation (past : List Lease) :
    registrations (alternation selector past none) = past.map Lease.id := by
  induction past with
  | nil => rfl
  | cons r past ih =>
    rw [alternation_cons, List.map_cons, ← ih]
    rfl

theorem count_disposed_alternation (past : List Lease) (id : Nat) :
    (alternation selector past none).count (.disposed id) = (past.map Lease.id).count id := by
  induction past with
  | nil => rfl
  | cons r past ih =>
    rw [alternation_cons, List.count_cons_of_ne (by simp [Lease.start]), List.count_cons, ih,
      List.map_cons, List.count_cons]
    simp [Lease.finish]

theorem disposedBaseline_not_mem_alternation (index : Nat) :
    .disposedBaseline index ∉ alternation selector past live := by
  simp [alternation, Lease.start, Lease.finish]

/-- Registrations that are all given up, and what was there at the beginning, given up in the end. -/
def ending (selector : Selector) (leases : List Lease) (n : Nat) : List Note :=
  alternation selector leases none ++ (List.range n).reverse.map .disposedBaseline

theorem registrations_baselines (n : Nat) :
    registrations ((List.range n).reverse.map .disposedBaseline) = [] := by
  refine List.filterMap_eq_nil_iff.mpr fun x hx => ?_
  obtain ⟨i, -, rfl⟩ := List.mem_map.mp hx
  rfl

theorem registrations_ending (leases : List Lease) (n : Nat) :
    registrations (ending selector leases n) = leases.map Lease.id := by
  rw [ending, registrations, List.filterMap_append, ← registrations, ← registrations,
    registrations_alternation, registrations_baselines, List.append_nil]

theorem count_disposed_ending {leases : List Lease} (h : (leases.map Lease.id).Nodup) (n id : Nat) :
    (ending selector leases n).count (.disposed id) =
      if id ∈ leases.map Lease.id then 1 else 0 := by
  have hbaselines : ((List.range n).reverse.map Note.disposedBaseline).count (.disposed id) = 0 :=
    List.count_eq_zero.mpr (by simp)
  rw [ending, List.count_append, count_disposed_alternation, hbaselines, Nat.add_zero, h.count]

theorem count_disposedBaseline_ending (leases : List Lease) (n index : Nat) :
    (ending selector leases n).count (.disposedBaseline index) = if index < n then 1 else 0 := by
  have hnodup : ((List.range n).reverse.map Note.disposedBaseline).Nodup :=
    (List.nodup_reverse.mpr List.nodup_range).map fun _ _ h => by cases h; rfl
  rw [ending, List.count_append, List.count_eq_zero.mpr (disposedBaseline_not_mem_alternation index),
    Nat.zero_add, hnodup.count]
  simp

theorem undisposed_cons_sublist (r : Lease) (notes : List Note) :
    (undisposed (r.start selector :: r.finish :: notes)).Sublist (undisposed notes) := by
  have hregistrations : registrations (r.start selector :: r.finish :: notes) =
      r.id :: registrations notes := rfl
  rw [undisposed, hregistrations, List.filter_cons_of_neg (by simp [Lease.finish])]
  refine List.monotone_filter_right _ fun id hid => ?_
  simp only [List.mem_cons, not_or, decide_eq_true_eq] at hid ⊢
  exact hid.2.2

theorem length_undisposed_le_registrations (notes : List Note) :
    (undisposed notes).length ≤ (registrations notes).length :=
  List.length_filter_le _ _

/-- At any time at most one registration is not given up, also while the rest is given up. -/
theorem length_undisposed_le {rest notes : List Note} (hrest : registrations rest = [])
    (h : notes <+: alternation selector past live ++ rest) : (undisposed notes).length ≤ 1 := by
  -- On the registrations given up. Each begins with two calls, and a prefix may end between them.
  induction past generalizing notes with
  | nil =>
    have hlive : (registrations (alternation selector [] live ++ rest)).length ≤ 1 := by
      rw [registrations, List.filterMap_append, ← registrations, ← registrations, hrest]
      cases live <;> exact Nat.le_of_ble_eq_true rfl
    exact Nat.le_trans (length_undisposed_le_registrations notes)
      (Nat.le_trans (h.filterMap _).length_le hlive)
  | cons r past ih =>
    rw [alternation_cons, List.cons_append, List.cons_append] at h
    rcases List.prefix_cons_iff.mp h with rfl | ⟨later, rfl, hlater⟩
    · exact Nat.zero_le 1
    · rcases List.prefix_cons_iff.mp hlater with rfl | ⟨latest, rfl, hlatest⟩
      · exact length_undisposed_le_registrations [r.start selector]
      · exact Nat.le_trans (undisposed_cons_sublist r latest).length_le (ih hlatest)

end Alternation

/-! ## Runs -/

namespace Sharing

variable {η σ : Type} {s : Sharing} {n : Nat} {selector : Selector} {past : List Lease}
  {live : Option Lease}

/-- The invariant: the calls register one provider after the other, the live one for the active
patterns. Numbers increase, and none is left out where others register nothing. -/
structure Alternates (s : Sharing) (n : Nat) (selector : Selector) (past : List Lease)
    (live : Option Lease) : Prop where
  holds : s.controller.Holds n (live.map Lease.id)
  selector_eq : s.controller.selector = selector
  calls_eq : calls s.events = alternation selector past live
  current : ∀ r ∈ live, r.patterns = s.controller.current
  increasing : ((past ++ live.toList).map Lease.id).Pairwise (· < ·)
  below : ∀ r ∈ past ++ live.toList, r.id < s.controller.registry.nextId
  dense : s.foreign = [] →
    (past ++ live.toList).map Lease.id = List.range s.controller.registry.nextId

theorem alternates_start (n : Nat) (selector : Selector) :
    (start n selector).Alternates n selector [] none := by
  refine ⟨⟨rfl, ?_⟩, rfl, rfl, nofun, List.Pairwise.nil, nofun, fun _ => rfl⟩
  simp [start, Controller.initial, ActiveSet.initial, baselines]

/-- The registration for patterns, if there are any. -/
def leaseOf (id : Nat) (patterns : List String) : Option Lease :=
  if patterns = [] then none else some ⟨id, patterns⟩

theorem eq_of_mem_leaseOf {id : Nat} {patterns : List String} {r : Lease}
    (h : r ∈ leaseOf id patterns) : r = ⟨id, patterns⟩ := by
  unfold leaseOf at h
  split at h
  · cases h
  · exact (Option.some.inj h).symm

theorem map_id_leaseOf (id : Nat) (patterns : List String) :
    (leaseOf id patterns).map Lease.id = if patterns = [] then none else some id := by
  unfold leaseOf
  split <;> rfl

theorem Alternates.swap (h : s.Alternates n selector past live) (patterns : List String) :
    calls s.events ++ s.controller.swap (live.map Lease.id) patterns =
      alternation selector (past ++ live.toList) (leaseOf s.controller.registry.nextId patterns) := by
  have hstart : (leaseOf s.controller.registry.nextId patterns).toList.map (Lease.start selector) =
      if patterns = [] then [] else [.registered s.controller.registry.nextId selector patterns] := by
    unfold leaseOf
    split <;> rfl
  rw [Controller.swap, h.calls_eq, map_disposed_id, ← List.append_assoc, alternation_finish, h.selector_eq,
    ← hstart, alternation_start]

/-- The registrations after a change of the active patterns: one more unless there are none, with the
next number. -/
theorem Alternates.leases (h : s.Alternates n selector past live) (patterns : List String) :
    let leases := past ++ live.toList ++ (leaseOf s.controller.registry.nextId patterns).toList
    let nextId := (s.controller.switched n (live.map Lease.id) patterns).registry.nextId
    (leases.map Lease.id).Pairwise (· < ·) ∧ (∀ r ∈ leases, r.id < nextId) ∧
      (s.foreign = [] → leases.map Lease.id = List.range nextId) := by
  unfold leaseOf Controller.switched
  by_cases hempty : patterns = []
  · simp only [hempty, if_true, Option.toList_none, List.append_nil, Controller.released,
      Registry.nextId_release]
    exact ⟨h.increasing, h.below, h.dense⟩
  · simp only [hempty, if_false, Option.toList_some, Controller.released, Controller.registered,
      Registry.register, Registry.nextId_release]
    refine ⟨?_, fun r hr => ?_, fun hforeign => ?_⟩
    · rw [List.map_append, List.pairwise_append]
      refine ⟨h.increasing, List.pairwise_singleton _ _, fun id hid next hnext => ?_⟩
      obtain ⟨r, hr, rfl⟩ := List.mem_map.mp hid
      rw [List.mem_singleton.mp hnext]
      exact h.below r hr
    · rcases List.mem_append.mp hr with hr | hr
      · exact Nat.lt_succ_of_lt (h.below r hr)
      · rw [List.mem_singleton.mp hr]
        exact Nat.lt_succ_self _
    · rw [List.map_append, h.dense hforeign, List.range_succ]
      rfl

theorem Alternates.switched (h : s.Alternates n selector past live) (patterns : List String)
    {events : List Event} (hevents : AnchorOutline.calls events =
      calls s.events ++ s.controller.swap (live.map Lease.id) patterns) :
    Alternates { s with
        controller := s.controller.switched n (live.map Lease.id) patterns
        events := events } n selector (past ++ live.toList)
      (leaseOf s.controller.registry.nextId patterns) := by
  obtain ⟨hincreasing, hbelow, hdense⟩ := h.leases patterns
  refine ⟨?_, ?_, hevents.trans (h.swap patterns), fun r hr => ?_, hincreasing, hbelow, hdense⟩
  · rw [map_id_leaseOf]
    exact h.holds.switched patterns
  · rw [← h.selector_eq]
    unfold Controller.switched
    split <;> rfl
  · rw [Controller.current_switched, eq_of_mem_leaseOf hr]

/-- What is neither a call of the controller nor changes its subscriptions keeps the invariant. -/
theorem Alternates.carry (h : s.Alternates n selector past live) {s' : Sharing}
    (hset : s'.controller.set = s.controller.set)
    (hselector : s'.controller.selector = s.controller.selector)
    (hcalls : calls s'.events = calls s.events)
    (hnext : s.controller.registry.nextId ≤ s'.controller.registry.nextId)
    (hforeign : s'.foreign = [] → s.foreign = [] ∧
      s'.controller.registry.nextId = s.controller.registry.nextId) :
    s'.Alternates n selector past live := by
  refine ⟨⟨?_, ?_⟩, hselector.trans h.selector_eq, hcalls.trans h.calls_eq, fun r hr => ?_,
    h.increasing, fun r hr => Nat.lt_of_lt_of_le (h.below r hr) hnext, fun hnone => ?_⟩
  · rw [hset, h.holds.baseline]
  · rw [hset, h.holds.subscriptions]
  · rw [h.current r hr, Controller.current, Controller.current, hset]
  · obtain ⟨hnone, heq⟩ := hforeign hnone
    rw [heq, h.dense hnone]

theorem Alternates.act (h : s.Alternates n selector past live) (action : HandledRegistry.Action) :
    (s.act action).Alternates n selector past live := by
  have hsame {r : HandledRegistry} (hnext : r.registry.nextId = s.controller.registry.nextId) :
      Alternates { s with
        controller := { s.controller with registry := r.registry }
        handles := r.handles
        foreign := s.foreign ++ [] } n selector past live :=
    h.carry rfl rfl rfl (Nat.le_of_eq hnext.symm) fun hnone => ⟨by simpa using hnone, hnext⟩
  cases action with
  | register selector' p =>
    exact h.carry rfl rfl rfl (Nat.le_succ _) fun hnone => by simp [Sharing.act] at hnone
  | dispose k =>
    refine hsame ?_
    cases hheld : HandledRegistry.held? ⟨s.controller.registry, s.handles⟩ k <;>
      simp [HandledRegistry.act, hheld, Registry.dispose]
  | letGo k => exact hsame rfl
  | clone => exact hsame rfl

/-- Every operation keeps the invariant. An operation that is applied, other than saving, makes the live
registration a past one. -/
theorem Alternates.operate (h : s.Alternates n selector past live) (command : SetCommand)
    (w : Surroundings η σ) (scene : Scene η σ) (hscene : scene.events = s.events) :
    let result := (w.operate command.operation s.controller scene).1
    let s' := s.operate command w scene
    if result = .ok .applied ∧ command ≠ .save then
      s'.Alternates n selector (past ++ live.toList)
          (leaseOf s.controller.registry.nextId s'.controller.current) ∧
        calls s'.events =
          calls s.events ++ s.controller.swap (live.map Lease.id) s'.controller.current
    else s'.Alternates n selector past live ∧ calls s'.events = calls s.events := by
  intro result s'
  have hlaw := w.operate_of_ensures (h.holds.ensures_calls command) scene
  have hevents : calls s'.events = calls s.events ++
      calls (AnchorOutline.events (w.transcript (command.operation s.controller) scene)) := by
    rw [← calls_append, ← hscene]
    exact congrArg calls (w.events_operate command.operation s.controller scene)
  have hcontroller : s'.controller = (w.operate command.operation s.controller scene).2.1 := rfl
  unfold Controller.Swaps at hlaw
  rw [← hcontroller] at hlaw
  split at hlaw
  next happlied =>
    rw [if_pos happlied]
    rw [hlaw.2] at hevents
    refine ⟨?_, hevents⟩
    have hswitched := h.switched s'.controller.current hevents
    rw [← hlaw.1] at hswitched
    exact hswitched
  next hidle =>
    rw [if_neg hidle]
    rw [hlaw.2, List.append_nil] at hevents
    have hc : s'.controller = s.controller := hlaw.1
    exact ⟨h.carry (by rw [hc]) (by rw [hc]) hevents (Nat.le_of_eq (by rw [hc]))
      fun hnone => ⟨hnone, by rw [hc]⟩, hevents⟩

theorem alternates_run (n : Nat) (selector : Selector) (moves : List (Move η σ)) :
    ∃ past live, ((start n selector).run moves).Alternates n selector past live := by
  induction moves using List.reverseRecOn with
  | nil => exact ⟨[], none, alternates_start n selector⟩
  | append_singleton moves m ih =>
    obtain ⟨past, live, h⟩ := ih
    rw [run, List.foldl_append]
    cases m with
    | operate command w host store machine =>
      have hstep := h.operate command w ⟨host, store, machine, _⟩ rfl
      dsimp only at hstep
      split at hstep
      · exact ⟨_, _, hstep.1⟩
      · exact ⟨_, _, hstep.1⟩
    | others action => exact ⟨_, _, h.act action⟩

/-- The calls of a run that ends, in the state that was reached by then. -/
def ended (s : Sharing) (w : Surroundings η σ) (host : η) (store : σ) (machine : Machine) : List Note :=
  calls (w.run s.controller.shutdown ⟨host, store, machine, s.events⟩).2.events

theorem Alternates.ended_eq (h : s.Alternates n selector past live) (w : Surroundings η σ) (host : η)
    (store : σ) (machine : Machine) :
    s.ended w host store machine = calls s.events ++ live.toList.map Lease.finish ++
        (List.range n).reverse.map .disposedBaseline ∧
      s.ended w host store machine = ending selector (past ++ live.toList) n := by
  have hlaw := h.holds.ensures_shutdown.transcript w.answer ⟨host, store, machine, s.events⟩
  have hended := congrArg calls (w.events_run s.controller.shutdown ⟨host, store, machine, s.events⟩)
  rw [calls_append] at hended
  have hcalls := hended.trans (congrArg (calls s.events ++ ·) hlaw)
  rw [map_disposed_id, ← List.append_assoc] at hcalls
  exact ⟨hcalls, hcalls.trans (by rw [h.calls_eq, alternation_finish, ending])⟩

/-! ## After any moves -/

/-- After any moves the calls of a controller register one provider after the other, each given up
before the next, so that at any time at most one is not given up; nothing that the controller was
subscribed to before is given up. Numbers increase, and are all numbers from 0 on where others register
nothing. An operation that is applied, other than saving, gives up the live registration and registers
the new active patterns, if there are any, and all others do neither. The end gives up the live
registration and then what was there at the beginning, so that each registration and each of these is
given up once. -/
theorem run_alternates (n : Nat) (selector : Selector) (moves : List (Move η σ)) :
    let s := (start n selector).run moves
    ∃ (past : List Lease) (live : Option Lease),
      let leases := past ++ live.toList
      calls s.events = alternation selector past live ∧
      s.controller.set.subscriptions =
        baselines n ++ (live.map fun r => .registration r.id).toList ∧
      (∀ r ∈ live, r.patterns = s.controller.current) ∧
      (leases.map Lease.id).Pairwise (· < ·) ∧
      (s.foreign = [] → leases.map Lease.id = List.range leases.length) ∧
      (∀ notes, notes <+: calls s.events → (undisposed notes).length ≤ 1) ∧
      (∀ index, .disposedBaseline index ∉ calls s.events) ∧
      (∀ (command : SetCommand) (w : Surroundings η σ) (host : η) (store : σ) (machine : Machine),
        let result := (w.operate command.operation s.controller ⟨host, store, machine, s.events⟩).1
        let s' := s.move (.operate command w host store machine)
        (result = .ok .applied → command ≠ .save →
          calls s'.events = calls s.events ++ live.toList.map Lease.finish ++
            if s'.controller.current = [] then []
            else [.registered s.controller.registry.nextId selector s'.controller.current]) ∧
        (result ≠ .ok .applied ∨ command = .save → calls s'.events = calls s.events)) ∧
      ∀ (w : Surroundings η σ) (host : η) (store : σ) (machine : Machine),
        let ended := s.ended w host store machine
        ended = calls s.events ++ live.toList.map Lease.finish ++
          (List.range n).reverse.map .disposedBaseline ∧
        (∀ notes, notes <+: ended → (undisposed notes).length ≤ 1) ∧
        registrations ended = leases.map Lease.id ∧
        (∀ id, ended.count (.disposed id) = if id ∈ registrations ended then 1 else 0) ∧
        ∀ index, ended.count (.disposedBaseline index) = if index < n then 1 else 0 := by
  intro s
  obtain ⟨past, live, h⟩ := alternates_run n selector moves
  refine ⟨past, live, h.calls_eq, ?_, h.current, h.increasing, fun hforeign => ?_, fun notes hnotes => ?_,
    fun index => ?_, fun command w host store machine => ?_, fun w host store machine => ?_⟩
  · rw [h.holds.subscriptions]
    cases live <;> rfl
  · have hids := h.dense hforeign
    have hlength := congrArg List.length hids
    rw [List.length_map, List.length_range] at hlength
    rw [hids, hlength]
  · rw [h.calls_eq, ← List.append_nil (alternation selector past live)] at hnotes
    exact length_undisposed_le rfl hnotes
  · rw [h.calls_eq]
    exact disposedBaseline_not_mem_alternation index
  · have hstep := h.operate command w ⟨host, store, machine, s.events⟩ rfl
    dsimp only at hstep
    split at hstep
    next happlied =>
      refine ⟨fun _ _ => ?_, fun hidle => ?_⟩
      · rw [← map_disposed_id, ← h.selector_eq, List.append_assoc]
        exact hstep.2
      · rcases hidle with hresult | hcommand
        · exact absurd happlied.1 hresult
        · exact absurd hcommand happlied.2
    next hidle =>
      exact ⟨fun hresult hcommand => absurd ⟨hresult, hcommand⟩ hidle, fun _ => hstep.2⟩
  · obtain ⟨hcalls, hending⟩ := h.ended_eq w host store machine
    have hnodup : ((past ++ live.toList).map Lease.id).Nodup :=
      h.increasing.imp fun hlt => Nat.ne_of_lt hlt
    refine ⟨hcalls, fun notes hnotes => ?_, ?_, fun id => ?_, fun index => ?_⟩
    · rw [hending] at hnotes
      exact length_undisposed_le (registrations_baselines n) hnotes
    · rw [hending, registrations_ending]
    · rw [hending, registrations_ending, count_disposed_ending hnodup]
    · rw [hending, count_disposedBaseline_ending]

end Sharing

end AnchorOutline
