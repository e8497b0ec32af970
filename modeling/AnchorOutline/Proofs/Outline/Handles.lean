import AnchorOutline.Outline.Registry
import Mathlib

/-!
# Handles of registrations

Whoever registers a provider gets a handle for it. Handles are used to dispose, once or again, or are
let go, in any order. The table always holds just what was registered and not disposed by its handle,
in the order of registration. All references to a table that come of cloning one of them tell of this
table.

* `HandledRegistry.registered`, `HandledRegistry.LetsGo`, `HandledRegistry.Disposes`,
  `HandledRegistry.kept` : what a history says of its handles and of the table, without looking at numbers;
* `HandledRegistry.Records` : a table and handles that agree with a history, which every action keeps;
* `RegistryClones.Shares` : references that are all to one table, which every action keeps;
* `RegistryClones.table_of_undisposed` : the table after any actions, and what a disposal does to it.
-/

namespace AnchorOutline

namespace HandledRegistry

def run (r : HandledRegistry) (actions : List Action) : HandledRegistry := actions.foldl act r

theorem run_append (r : HandledRegistry) (actions later : List Action) :
    r.run (actions ++ later) = (r.run actions).run later :=
  List.foldl_append

/-! ## Histories -/

/-- What is registered in the course of actions. The handle of each has its place in this list. -/
def registered (actions : List Action) : List (Selector × Provider) :=
  actions.filterMap fun
    | .register selector provider => some (selector, provider)
    | _ => none

/-- A handle that was given out is let go. -/
def LetsGo (actions : List Action) (handle : Nat) : Prop :=
  ∃ before after, actions = before ++ .letGo handle :: after ∧ handle < (registered before).length

/-- A handle that was given out, and not let go by then, is used to dispose. -/
def Disposes (actions : List Action) (handle : Nat) : Prop :=
  ∃ before after, actions = before ++ .dispose handle :: after ∧
    handle < (registered before).length ∧ ¬ LetsGo before handle

open Classical in
/-- What was registered and not disposed, in the order of registration. -/
noncomputable def kept (actions : List Action) : List Registration :=
  ((registered actions).zipIdx.filter fun (_, handle) => ¬ Disposes actions handle).map
    fun ((selector, provider), handle) => ⟨handle, selector, provider⟩

variable {actions later : List Action} {action : Action} {handle : Nat}

@[simp] theorem registered_append (actions later : List Action) :
    registered (actions ++ later) = registered actions ++ registered later :=
  List.filterMap_append

/-- What some action began is begun whatever follows. -/
theorem split_append {P : List Action → Prop} {x : Action}
    (h : ∃ before after, actions = before ++ x :: after ∧ P before) (later : List Action) :
    ∃ before after, actions ++ later = before ++ x :: after ∧ P before := by
  obtain ⟨before, after, rfl, hbefore⟩ := h
  exact ⟨before, after ++ later, by simp, hbefore⟩

/-- An action at the end is among those before it, or is the last one. -/
theorem split_concat {P : List Action → Prop} {x : Action} :
    (∃ before after, actions ++ [action] = before ++ x :: after ∧ P before) ↔
      (∃ before after, actions = before ++ x :: after ∧ P before) ∨ action = x ∧ P actions := by
  constructor
  · rintro ⟨before, after, hsplit, hbefore⟩
    rcases List.eq_nil_or_concat after with rfl | ⟨after', last, rfl⟩
    · obtain ⟨rfl, hlast⟩ := List.append_inj' hsplit rfl
      exact .inr ⟨by simpa using hlast, hbefore⟩
    · have hsame : actions ++ [action] = (before ++ x :: after') ++ [last] := by simpa using hsplit
      exact .inl ⟨before, after', (List.append_inj' hsame rfl).1, hbefore⟩
  · rintro (h | ⟨rfl, hbefore⟩)
    · exact split_append h _
    · exact ⟨actions, [], rfl, hbefore⟩

theorem length_le_of_split {before after : List Action} {x : Action}
    (h : actions = before ++ x :: after) : (registered before).length ≤ (registered actions).length := by
  rw [h, registered_append, List.length_append]
  exact Nat.le_add_right _ _

theorem LetsGo.lt_length (h : LetsGo actions handle) : handle < (registered actions).length := by
  obtain ⟨before, after, hsplit, hgiven⟩ := h
  exact Nat.lt_of_lt_of_le hgiven (length_le_of_split hsplit)

theorem Disposes.lt_length (h : Disposes actions handle) : handle < (registered actions).length := by
  obtain ⟨before, after, hsplit, hgiven, -⟩ := h
  exact Nat.lt_of_lt_of_le hgiven (length_le_of_split hsplit)

theorem letsGo_concat : LetsGo (actions ++ [action]) handle ↔
    LetsGo actions handle ∨ action = .letGo handle ∧ handle < (registered actions).length :=
  split_concat

theorem disposes_concat : Disposes (actions ++ [action]) handle ↔
    Disposes actions handle ∨ action = .dispose handle ∧ handle < (registered actions).length ∧
      ¬ LetsGo actions handle :=
  split_concat

/-! ## What is kept -/

theorem mem_kept {e : Registration} : e ∈ kept actions ↔
    (registered actions)[e.id]? = some (e.selector, e.provider) ∧ ¬ Disposes actions e.id := by
  obtain ⟨id, selector, provider⟩ := e
  simp only [kept, List.mem_map, List.mem_filter, List.mem_zipIdx_iff_getElem?, Prod.exists,
    decide_eq_true_eq]
  constructor
  · rintro ⟨selector', provider', handle, hmem, heq⟩
    cases heq
    exact hmem
  · rintro hmem
    exact ⟨selector, provider, id, hmem, rfl⟩

theorem mem_kept_register {selector : Selector} {provider : Provider} {e : Registration} :
    e ∈ kept (actions ++ [.register selector provider]) ↔
      e ∈ kept actions ∨ e = ⟨(registered actions).length, selector, provider⟩ := by
  have hgiven : registered (actions ++ [.register selector provider]) =
      registered actions ++ [(selector, provider)] := registered_append _ _
  have hdisposes : Disposes (actions ++ [.register selector provider]) e.id ↔
      Disposes actions e.id := by
    simp [disposes_concat]
  rw [mem_kept, mem_kept, hgiven, hdisposes]
  rcases Nat.lt_trichotomy e.id (registered actions).length with hlt | heq | hgt
  · have hne : e ≠ ⟨(registered actions).length, selector, provider⟩ := by
      rintro rfl
      exact Nat.lt_irrefl _ hlt
    rw [List.getElem?_append_left hlt, or_iff_left hne]
  · obtain ⟨id, selector', provider'⟩ := e
    obtain rfl : id = (registered actions).length := heq
    have hkept : ¬ Disposes actions (registered actions).length :=
      fun hd => Nat.lt_irrefl _ hd.lt_length
    simp [hkept, eq_comm]
  · have hne : e ≠ ⟨(registered actions).length, selector, provider⟩ := by
      rintro rfl
      exact Nat.lt_irrefl _ hgt
    have hbefore : (registered actions)[e.id]? = none := List.getElem?_eq_none (Nat.le_of_lt hgt)
    have hafter : (registered actions ++ [(selector, provider)])[e.id]? = none := by
      refine List.getElem?_eq_none ?_
      rw [List.length_append]
      exact hgt
    rw [hbefore, hafter]
    simp [hne]

theorem ids_kept (actions : List Action) : ((kept actions).map Registration.id).Pairwise (· < ·) := by
  have hplaces : ((registered actions).zipIdx.map Prod.snd).Pairwise (· < ·) := by
    rw [List.zipIdx_map_snd]
    exact List.pairwise_lt_range'
  rw [kept, List.map_map]
  exact hplaces.sublist (List.filter_sublist.map Prod.snd)

/-- Lists of registrations in increasing order of their numbers are told apart by their members. -/
theorem eq_of_mem_iff {entries entries' : List Registration}
    (h : (entries.map Registration.id).Pairwise (· < ·))
    (h' : (entries'.map Registration.id).Pairwise (· < ·))
    (hmem : ∀ e, e ∈ entries ↔ e ∈ entries') : entries = entries' := by
  have hirrefl : Std.Irrefl fun e e' : Registration => e.id < e'.id := ⟨fun _ => Nat.lt_irrefl _⟩
  have hantisymm : Std.Antisymm fun e e' : Registration => e.id < e'.id :=
    ⟨fun _ _ hlt hgt => absurd hlt (Nat.lt_asymm hgt)⟩
  exact (List.pairwise_map.mp h).eq_of_mem_iff (List.pairwise_map.mp h') hmem

/-! ## Records -/

/-- A table and handles that agree with a history: handles hold their own places unless they are spent, and the
table has what is not disposed. -/
structure Records (r : HandledRegistry) (actions : List Action) : Prop where
  nextId : r.registry.nextId = (registered actions).length
  handles : r.handles.length = (registered actions).length
  held : ∀ handle id, r.held? handle = some id ↔ id = handle ∧
    handle < (registered actions).length ∧ ¬ Disposes actions handle ∧ ¬ LetsGo actions handle
  entries : ∀ e, e ∈ r.registry.entries ↔ e ∈ kept actions
  ordered : (r.registry.entries.map Registration.id).Pairwise (· < ·)

variable {r : HandledRegistry}

theorem records_nil : Records {} [] := by
  refine ⟨rfl, rfl, fun handle id => ?_, fun e => ?_, List.Pairwise.nil⟩
  · simp [held?, registered]
  · simp [kept, registered]

theorem held?_spend (r : HandledRegistry) (handle other : Nat) :
    (r.spend handle).held? other = if other = handle then none else r.held? other := by
  unfold held? spend
  by_cases hsame : other = handle
  · subst hsame
    rw [if_pos rfl]
    by_cases hlt : other < r.handles.length
    · simp [hlt]
    · simp [hlt]
  · rw [if_neg hsame, List.getElem?_set_ne (Ne.symm hsame)]

theorem held?_register (r : HandledRegistry) (selector : Selector) (provider : Provider) (handle : Nat) :
    (r.act (.register selector provider)).held? handle =
      if handle = r.handles.length then some r.registry.nextId else r.held? handle := by
  unfold held?
  show ((r.handles ++ [some r.registry.nextId])[handle]?).join = _
  rcases Nat.lt_trichotomy handle r.handles.length with hlt | rfl | hgt
  · rw [if_neg (Nat.ne_of_lt hlt), List.getElem?_append_left hlt]
  · simp
  · have hbefore : r.handles[handle]? = none := List.getElem?_eq_none (Nat.le_of_lt hgt)
    have hafter : (r.handles ++ [some r.registry.nextId])[handle]? = none := by
      refine List.getElem?_eq_none ?_
      rw [List.length_append]
      exact hgt
    rw [if_neg (Nat.ne_of_gt hgt), hbefore, hafter]

theorem entries_register (r : HandledRegistry) (selector : Selector) (provider : Provider) :
    (r.act (.register selector provider)).registry.entries =
      r.registry.entries ++ [⟨r.registry.nextId, selector, provider⟩] := rfl

theorem Records.id_lt (h : Records r actions) {e : Registration} (he : e ∈ r.registry.entries) :
    e.id < r.registry.nextId := by
  obtain ⟨hlt, -⟩ := List.getElem?_eq_some_iff.mp (mem_kept.mp ((h.entries e).mp he)).1
  rwa [h.nextId]

theorem Records.register (h : Records r actions) (selector : Selector) (provider : Provider) :
    Records (r.act (.register selector provider))
      (actions ++ [.register selector provider]) := by
  have hlength : (registered (actions ++ [.register selector provider])).length =
      (registered actions).length + 1 := by
    rw [registered_append, List.length_append]
    rfl
  refine ⟨?_, ?_, fun handle id => ?_, fun e => ?_, ?_⟩
  · rw [hlength, ← h.nextId]
    rfl
  · rw [hlength, ← h.handles]
    simp [act]
  · have hdisposes : Disposes (actions ++ [.register selector provider]) handle ↔
        Disposes actions handle := by simp [disposes_concat]
    have hletsGo : LetsGo (actions ++ [.register selector provider]) handle ↔
        LetsGo actions handle := by simp [letsGo_concat]
    rw [held?_register, hlength, hdisposes, hletsGo, h.handles]
    by_cases hnew : handle = (registered actions).length
    · subst hnew
      have hdisposed : ¬ Disposes actions (registered actions).length :=
        fun hd => Nat.lt_irrefl _ hd.lt_length
      have hgone : ¬ LetsGo actions (registered actions).length :=
        fun hg => Nat.lt_irrefl _ hg.lt_length
      simp [h.nextId, hdisposed, hgone, eq_comm]
    · rw [if_neg hnew, h.held, Nat.lt_succ_iff_lt_or_eq, or_iff_left hnew]
  · rw [mem_kept_register, ← h.entries, ← h.nextId, entries_register, List.mem_append,
      List.mem_singleton]
  · rw [entries_register, List.map_append, List.pairwise_append]
    refine ⟨h.ordered, List.pairwise_singleton _ _, fun id hid id' hid' => ?_⟩
    obtain ⟨e, he, rfl⟩ := List.mem_map.mp hid
    rw [List.mem_singleton.mp hid']
    exact h.id_lt he

theorem registered_concat (hgiven : registered [action] = []) :
    registered (actions ++ [action]) = registered actions := by
  rw [registered_append, hgiven, List.append_nil]

theorem Records.idle (h : Records r actions) (hgiven : registered [action] = [])
    (hdisposes : ∀ other, Disposes (actions ++ [action]) other ↔ Disposes actions other)
    (hletsGo : ∀ other, LetsGo (actions ++ [action]) other ↔ LetsGo actions other) :
    Records r (actions ++ [action]) := by
  have hsame : registered (actions ++ [action]) = registered actions := registered_concat hgiven
  refine ⟨hsame ▸ h.nextId, hsame ▸ h.handles, fun handle id => ?_, fun e => ?_, h.ordered⟩
  · rw [h.held, hsame, hdisposes, hletsGo]
  · rw [h.entries, mem_kept, mem_kept, hsame, hdisposes]

theorem Records.letGo (h : Records r actions) (handle : Nat) :
    Records (r.act (.letGo handle)) (actions ++ [.letGo handle]) := by
  have hsame : registered (actions ++ [.letGo handle]) = registered actions :=
    registered_concat rfl
  have hdisposes (other : Nat) :
      Disposes (actions ++ [.letGo handle]) other ↔ Disposes actions other := by
    simp [disposes_concat]
  refine ⟨hsame ▸ h.nextId, ?_, fun other id => ?_, fun e => ?_, h.ordered⟩
  · rw [hsame, ← h.handles]
    exact List.length_set
  · show (r.spend handle).held? other = some id ↔ _
    rw [held?_spend, hsame, hdisposes, letsGo_concat]
    by_cases hother : other = handle
    · subst hother
      rw [if_pos rfl]
      constructor
      · exact nofun
      · rintro ⟨-, hlt, -, hgone⟩
        exact absurd (.inr ⟨rfl, hlt⟩) hgone
    · have hne : Action.letGo handle ≠ .letGo other := fun heq => hother (by cases heq; rfl)
      rw [if_neg hother, h.held]
      simp [hne]
  · rw [mem_kept, hsame, hdisposes, ← mem_kept, ← h.entries]
    rfl

theorem Records.dispose (h : Records r actions) (handle : Nat) :
    Records (r.act (.dispose handle)) (actions ++ [.dispose handle]) := by
  have hletsGo (other : Nat) :
      LetsGo (actions ++ [.dispose handle]) other ↔ LetsGo actions other := by simp [letsGo_concat]
  have hsame : registered (actions ++ [.dispose handle]) = registered actions :=
    registered_concat rfl
  cases hheld : r.held? handle with
  | none =>
    have hidle : r.act (.dispose handle) = r := by simp [act, hheld]
    rw [hidle]
    refine h.idle rfl (fun other => ?_) hletsGo
    rw [disposes_concat]
    refine or_iff_left_of_imp ?_
    rintro ⟨heq, hlt, hgone⟩
    cases heq
    by_contra hdisposed
    cases hheld.symm.trans ((h.held handle handle).mpr ⟨rfl, hlt, hdisposed, hgone⟩)
  | some id =>
    obtain ⟨rfl, hlt, hdisposed, hgone⟩ := (h.held handle id).mp hheld
    have hdisposes (other : Nat) : Disposes (actions ++ [.dispose id]) other ↔
        Disposes actions other ∨ other = id := by
      rw [disposes_concat]
      refine or_congr_right ⟨?_, ?_⟩
      · rintro ⟨heq, -⟩
        cases heq
        rfl
      · rintro rfl
        exact ⟨rfl, hlt, hgone⟩
    have hact : r.act (.dispose id) =
        { r.spend id with registry := r.registry.dispose id } := by simp [act, hheld]
    rw [hact]
    refine ⟨hsame ▸ h.nextId, ?_, fun other id' => ?_, fun e => ?_, ?_⟩
    · rw [hsame, ← h.handles]
      exact List.length_set
    · show (r.spend id).held? other = some id' ↔ _
      rw [held?_spend, hsame, hdisposes, hletsGo]
      by_cases hother : other = id
      · simp [hother]
      · simp [hother, h.held]
    · rw [mem_kept, hsame, hdisposes, not_or, ← and_assoc, ← mem_kept, ← h.entries]
      simp [Registry.dispose]
    · exact h.ordered.sublist (List.filter_sublist.map Registration.id)

theorem Records.act (h : Records r actions) (action : Action) :
    Records (r.act action) (actions ++ [action]) := by
  cases action with
  | register selector provider => exact h.register selector provider
  | dispose handle => exact h.dispose handle
  | letGo handle => exact h.letGo handle
  | clone => exact h.idle rfl (fun _ => by simp [disposes_concat]) fun _ => by simp [letsGo_concat]

theorem records_run (actions : List Action) : Records (run {} actions) actions := by
  induction actions using List.reverseRecOn with
  | nil => exact records_nil
  | append_singleton actions action ih =>
    rw [run_append]
    exact ih.act action

theorem Records.entries_eq (h : Records r actions) : r.registry.entries = kept actions :=
  eq_of_mem_iff h.ordered (ids_kept actions) h.entries

/-! ## Disposing -/

/-- A handle in use disposes its own entry, and leaves all others where they are. -/
theorem Records.dispose_own (h : Records r actions) {selector : Selector} {provider : Provider}
    (hgiven : (registered actions)[handle]? = some (selector, provider))
    (hdisposed : ¬ Disposes actions handle) (hgone : ¬ LetsGo actions handle) :
    ∃ before after, r.registry.entries = before ++ ⟨handle, selector, provider⟩ :: after ∧
      (r.act (.dispose handle)).registry.entries = before ++ after := by
  have hlt := (List.getElem?_eq_some_iff.mp hgiven).1
  have hheld : r.held? handle = some handle := (h.held handle handle).mpr ⟨rfl, hlt, hdisposed, hgone⟩
  have hmem : (⟨handle, selector, provider⟩ : Registration) ∈ r.registry.entries :=
    (h.entries _).mpr (mem_kept.mpr ⟨hgiven, hdisposed⟩)
  obtain ⟨before, after, hsplit⟩ := List.append_of_mem hmem
  refine ⟨before, after, hsplit, ?_⟩
  have hordered := h.ordered
  rw [hsplit, List.map_append, List.map_cons, List.pairwise_append, List.pairwise_cons] at hordered
  obtain ⟨-, ⟨hafter, -⟩, hbefore⟩ := hordered
  have hentries : (r.act (.dispose handle)).registry.entries =
      r.registry.entries.filter (·.id != handle) := by simp [HandledRegistry.act, hheld, Registry.dispose]
  have hbefore' : before.filter (·.id != handle) = before :=
    List.filter_eq_self.mpr fun e he => bne_iff_ne.mpr
      (Nat.ne_of_lt (hbefore e.id (List.mem_map_of_mem he) handle List.mem_cons_self))
  have hafter' : after.filter (·.id != handle) = after :=
    List.filter_eq_self.mpr fun e he => bne_iff_ne.mpr
      (Nat.ne_of_gt (hafter e.id (List.mem_map_of_mem he)))
  rw [hentries, hsplit, List.filter_append, hbefore', List.filter_cons_of_neg (by simp), hafter']

/-- A handle that was used to dispose, or let go, stands for nothing any more. -/
theorem Records.held?_of_spent (h : Records r actions)
    (hspent : Disposes actions handle ∨ LetsGo actions handle) : r.held? handle = none := by
  rw [Option.eq_none_iff_forall_ne_some]
  intro id hid
  obtain ⟨-, -, hdisposed, hgone⟩ := (h.held handle id).mp hid
  exact hspent.elim hdisposed hgone

end HandledRegistry

/-! ## Clones -/

namespace RegistryClones

open HandledRegistry (kept registered Disposes LetsGo)

def run (c : RegistryClones) (actions : List Action) : RegistryClones := actions.foldl act c

theorem run_append (c : RegistryClones) (actions later : List Action) :
    c.run (actions ++ later) = (c.run actions).run later :=
  List.foldl_append

/-- What an action does to the table that a reference is to. -/
def Action.onTable : Action → HandledRegistry.Action
  | .register _ selector provider => .register selector provider
  | .dispose handle => .dispose handle
  | .letGo handle => .letGo handle
  | .clone _ => .clone

/-- There is one table, and all references and handles are to it. -/
structure Shares (c : RegistryClones) (r : HandledRegistry) : Prop where
  tables : c.tables = [r.registry]
  references : ∀ place ∈ c.references, place = 0
  handles : c.handles = r.handles.map fun held? => held?.map fun id => (0, id)

variable {c : RegistryClones} {r : HandledRegistry}

theorem Shares.place_eq (h : c.Shares r) (reference : Nat) : c.place reference = 0 := by
  rw [place, List.getD_eq_getElem?_getD]
  cases hplace : c.references[reference]? with
  | none => rfl
  | some place => exact h.references place (List.mem_of_getElem? hplace)

theorem Shares.table_eq (h : c.Shares r) (reference : Nat) : c.table reference = r.registry := by
  rw [table, h.place_eq, h.tables]
  rfl

theorem Shares.held?_eq (h : c.Shares r) (handle : Nat) :
    c.held? handle = (r.held? handle).map fun id => (0, id) := by
  rw [held?, HandledRegistry.held?, h.handles, List.getElem?_map]
  rcases r.handles[handle]? with _ | _ | id <;> rfl

theorem Shares.spend (h : c.Shares r) (handle : Nat) : (c.spend handle).Shares (r.spend handle) := by
  refine ⟨h.tables, h.references, ?_⟩
  show c.handles.set handle none = (r.handles.set handle none).map _
  rw [h.handles, List.map_set]
  rfl

theorem Shares.act (h : c.Shares r) (action : Action) : (c.act action).Shares (r.act action.onTable) := by
  cases action with
  | register reference selector provider =>
    refine ⟨?_, h.references, ?_⟩
    · show c.tables.set (c.place reference) ((c.table reference).register selector provider).2 = _
      rw [h.place_eq, h.table_eq, h.tables]
      rfl
    · show c.handles ++ [some (c.place reference, (c.table reference).nextId)] =
        (r.handles ++ [some r.registry.nextId]).map _
      rw [h.place_eq, h.table_eq, h.handles, List.map_append]
      rfl
  | dispose handle =>
    have hheld := h.held?_eq handle
    cases hsome : r.held? handle with
    | none =>
      rw [hsome, Option.map_none] at hheld
      simpa only [RegistryClones.act, Action.onTable, HandledRegistry.act, hsome, hheld] using h
    | some id =>
      rw [hsome, Option.map_some] at hheld
      obtain ⟨-, hreferences, hhandles⟩ := h.spend handle
      simp only [RegistryClones.act, Action.onTable, HandledRegistry.act, hsome, hheld]
      refine ⟨?_, hreferences, hhandles⟩
      show c.tables.modify 0 (·.dispose id) = _
      rw [h.tables]
      rfl
  | letGo handle => exact h.spend handle
  | clone reference =>
    refine ⟨h.tables, fun place hplace => ?_, h.handles⟩
    rcases List.mem_append.mp hplace with hplace | hplace
    · exact h.references place hplace
    · rw [List.mem_singleton.mp hplace, h.place_eq]

theorem shares_run (actions : List Action) :
    (run {} actions).Shares (HandledRegistry.run {} (actions.map Action.onTable)) := by
  induction actions using List.reverseRecOn with
  | nil => exact ⟨rfl, by simp [run], rfl⟩
  | append_singleton actions action ih =>
    rw [run_append, List.map_append, HandledRegistry.run_append]
    exact ih.act action

theorem Shares.dispose_spent (h : c.Shares r) {handle : Nat} (hspent : r.held? handle = none) :
    c.act (.dispose handle) = c := by
  have hheld : c.held? handle = none := by rw [h.held?_eq, hspent]; rfl
  simp [RegistryClones.act, hheld]

/-- After any actions each reference is to a table that has what was registered and not disposed, through
whichever reference, in the order of registration and with increasing numbers. A handle in use disposes
its own entry and no other. Once it was used, it does nothing more, whatever else was done since. -/
theorem table_of_undisposed (actions : List Action) :
    let c := run {} actions
    let history := actions.map Action.onTable
    (∀ reference, let table := c.table reference
      table.entries = kept history ∧ (table.entries.map Registration.id).Pairwise (· < ·) ∧
        table.liveCount = (kept history).length ∧
        table.livePatterns = (kept history).map fun e => e.provider.patterns) ∧
      (∀ handle selector provider, (registered history)[handle]? = some (selector, provider) →
        ¬ Disposes history handle → ¬ LetsGo history handle → ∃ before after, ∀ reference,
          (c.table reference).entries = before ++ ⟨handle, selector, provider⟩ :: after ∧
            ((c.act (.dispose handle)).table reference).entries = before ++ after) ∧
      ∀ handle later, Disposes history handle →
        (c.run later).act (.dispose handle) = c.run later := by
  intro c history
  have hshares := shares_run actions
  have hrecords := HandledRegistry.records_run history
  refine ⟨fun reference => ?_, fun handle selector provider hgiven hdisposed hgone => ?_,
    fun handle later hdisposed => ?_⟩
  · have htable : c.table reference = (HandledRegistry.run {} history).registry :=
      hshares.table_eq reference
    intro table
    rw [show table = _ from htable]
    exact ⟨hrecords.entries_eq, hrecords.ordered, congrArg List.length hrecords.entries_eq,
      congrArg (List.map _) hrecords.entries_eq⟩
  · obtain ⟨before, after, hbefore, hafter⟩ := hrecords.dispose_own hgiven hdisposed hgone
    refine ⟨before, after, fun reference => ?_⟩
    rw [hshares.table_eq, (hshares.act (.dispose handle)).table_eq]
    exact ⟨hbefore, hafter⟩
  · have hlater := HandledRegistry.records_run (history ++ later.map Action.onTable)
    rw [show c.run later = _ from (run_append {} actions later).symm]
    refine (shares_run (actions ++ later)).dispose_spent ?_
    rw [List.map_append]
    exact hlater.held?_of_spent (.inl (HandledRegistry.split_append hdisposed _))

end RegistryClones

end AnchorOutline
