import AnchorOutline.Proofs.Active.Keeping
import AnchorOutline.Proofs.Sets.Faithful

/-!
# No empty pattern

An empty answer stands for no pattern at all: it clears, cancels or removes. This works only as long as
no pattern is itself empty. The active patterns come from the store and go back to it, so that neither
has an empty one is shown of both at once, for operations that may fail at any question and a store that
makes nothing up.

* `SetStore.MayAnswer` : exchanges in which a store answers, whatever fails;
* `Tracks` : the sets that a store has along its answers;
* `PatternSet.Proper` : an entry as it is to be saved;
* `Controller.Sober`, `Controller.ensures_sober` : an operation brings no empty pattern in;
* `ControllerWithStore.Reaches` : what may become of a controller at its store;
* `Controller.leads_amend` : any active pattern can be chosen to be fixed;
* `ControllerWithStore.never_blank` : what holds whatever has become of them.
-/

namespace AnchorOutline

open AnchorOutline.Action

variable {η σ : Type}

/-! ## Exchanges with a store that may fail -/

/-- Exchanges in which a store answers, in any of the ways in which its actions may go. -/
def SetStore.MayAnswer (store : SetStore σ) : σ → Tree → List Talk → σ → Tree → Prop
  | s, t, [], s', t' => s' = s ∧ t' = t
  | s, t, ⟨.getSets, r⟩ :: u, s', t' => ∃ s₁ t₁, MayRun (store.get s) t (some (r, s₁)) t₁ ∧
      MayAnswer store s₁ t₁ u s' t'
  | s, t, ⟨.putSets sets, r⟩ :: u, s', t' => ∃ s₁ t₁,
      MayRun (store.put sets s) t (some (r, s₁)) t₁ ∧ MayAnswer store s₁ t₁ u s' t'
  | s, t, ⟨.prompt _, _⟩ :: u, s', t' => MayAnswer store s t u s' t'
  | s, t, ⟨.note _, _⟩ :: u, s', t' => MayAnswer store s t u s' t'
  | s, t, ⟨.check _, _⟩ :: u, s', t' => MayAnswer store s t u s' t'

theorem SetStore.Answers.may {store : SetStore σ} {s s' : σ} {t t' : Tree} {u : List Talk}
    (h : store.Answers s t u s' t') : store.MayAnswer s t u s' t' := by
  induction u generalizing s t with
  | nil => exact h
  | cons x u ih =>
    obtain ⟨q, r⟩ := x
    cases q with
    | getSets =>
      obtain ⟨m, rfl, rfl, hrest⟩ := h
      exact ⟨_, _, mayRun_run (store.get s) m, ih hrest⟩
    | putSets sets =>
      obtain ⟨m, rfl, rfl, hrest⟩ := h
      exact ⟨_, _, mayRun_run (store.put sets s) m, ih hrest⟩
    | prompt p => exact ih h
    | note n => exact ih h
    | check holds => exact ih h

/-- A store that has some sets at first, if they can be read, and others in the end. What it gives is
what it has, and it always has what it had or what it took. -/
def Tracks : Option (List PatternSet) → List Talk → Option (List PatternSet) → Prop
  | has, [], has' => has' = has
  | has, ⟨.getSets, r⟩ :: t, has' => (∀ sets, r = .ok sets → has = some sets) ∧
      ∃ has₁, (∀ sets, has₁ = some sets → has = some sets) ∧ Tracks has₁ t has'
  | has, ⟨.putSets new, r⟩ :: t, has' => ∃ has₁,
      (∀ sets, has₁ = some sets → has = some sets ∨ r = .ok () ∧ sets = new) ∧ Tracks has₁ t has'
  | has, ⟨.prompt _, _⟩ :: t, has' => Tracks has t has'
  | has, ⟨.note _, _⟩ :: t, has' => Tracks has t has'
  | has, ⟨.check _, _⟩ :: t, has' => Tracks has t has'

/-- Whatever fails, a store that makes nothing up answers so. -/
theorem SetStore.Faithful.tracks {store : SetStore σ} {valid : σ → Tree → Prop}
    {held : σ → Tree → Option (List PatternSet)} (h : store.Faithful valid held) {s s' : σ}
    {t t' : Tree} {u : List Talk} (hvalid : valid s t) (hanswers : store.MayAnswer s t u s' t') :
    valid s' t' ∧ Tracks (held s t) u (held s' t') := by
  induction u generalizing s t with
  | nil =>
    obtain ⟨rfl, rfl⟩ := hanswers
    exact ⟨hvalid, rfl⟩
  | cons x u ih =>
    obtain ⟨q, r⟩ := x
    cases q with
    | getSets =>
      obtain ⟨s₁, t₁, hrun, hrest⟩ := hanswers
      obtain ⟨hvalid₁, hgiven, hkept⟩ := h.get hvalid hrun
      obtain ⟨hvalid', htracks⟩ := ih hvalid₁ hrest
      exact ⟨hvalid', hgiven, _, hkept, htracks⟩
    | putSets new =>
      obtain ⟨s₁, t₁, hrun, hrest⟩ := hanswers
      obtain ⟨hvalid₁, hkept⟩ := h.put hvalid hrun
      obtain ⟨hvalid', htracks⟩ := ih hvalid₁ hrest
      exact ⟨hvalid', _, hkept, htracks⟩
    | prompt p => exact ih hvalid hanswers
    | note n => exact ih hvalid hanswers
    | check holds => exact ih hvalid hanswers

/-- A store that is only read has what it had, and has given nothing else. -/
theorem Tracks.of_isPut {has has' : Option (List PatternSet)} {t : List Talk}
    (h : Tracks has t has') (ht : ∀ x ∈ t, x.isPut = false) :
    (∀ sets, has' = some sets → has = some sets) ∧
      ∀ sets, Talk.getSets (.ok sets) ∈ t → has = some sets := by
  induction t generalizing has with
  | nil => exact ⟨fun sets hsets => h.symm.trans hsets, nofun⟩
  | cons x t ih =>
    have hrest := fun y hy => ht y (List.mem_cons_of_mem _ hy)
    obtain ⟨q, r⟩ := x
    have hother : (∀ sets, Talk.getSets (.ok sets) ≠ ⟨q, r⟩) → Tracks has t has' →
        (∀ sets, has' = some sets → has = some sets) ∧
          ∀ sets, Talk.getSets (.ok sets) ∈ ⟨q, r⟩ :: t → has = some sets := by
      intro hne htracks
      obtain ⟨hkept, hgiven⟩ := ih htracks hrest
      refine ⟨hkept, fun sets hmem => hgiven sets ?_⟩
      exact (List.mem_cons.mp hmem).resolve_left (hne sets)
    cases q with
    | getSets =>
      obtain ⟨hfirst, has₁, hsame, htracks⟩ := h
      obtain ⟨hkept, hgiven⟩ := ih htracks hrest
      refine ⟨fun sets hsets => hsame sets (hkept sets hsets), fun sets hmem => ?_⟩
      rcases List.mem_cons.mp hmem with heq | hmem
      · cases heq
        exact hfirst sets rfl
      · exact hsame sets (hgiven sets hmem)
    | putSets new => cases ht _ List.mem_cons_self
    | prompt p => exact hother (fun _ => nofun) h
    | note n => exact hother (fun _ => nofun) h
    | check holds => exact hother (fun _ => nofun) h

/-! ## Entries -/

namespace PatternSet

/-- No pattern of the sets is empty. -/
def Nonblank (sets : List PatternSet) : Prop := ∀ set ∈ sets, "" ∉ set.texts

/-- An entry as it is to be saved: with a name, with at least one pattern, and with the usual flags. -/
structure Proper (entry : PatternSet) : Prop where
  id : entry.id ≠ ""
  patterns : entry.patterns ≠ []
  flags : ∀ p ∈ entry.patterns, p.ignoreCase = false ∧ p.isRegex = true

theorem proper_ofPatterns {id : String} {patterns : List String} (hid : id ≠ "")
    (hpatterns : patterns ≠ []) : (ofPatterns id patterns).Proper := by
  refine ⟨hid, by simpa [ofPatterns] using hpatterns, fun p hp => ?_⟩
  obtain ⟨text, -, rfl⟩ := List.mem_map.mp hp
  exact ⟨rfl, rfl⟩

theorem Nonblank.upsert {sets : List PatternSet} (h : Nonblank sets) {entry : PatternSet}
    (hentry : "" ∉ entry.texts) : Nonblank (PatternSet.upsert sets entry) := by
  intro set hset
  rcases mem_upsert hset with rfl | hset
  · exact hentry
  · exact h set hset

end PatternSet

/-! ## Operations -/

namespace Controller

variable {c : Controller}

theorem ensures_current_releaseLive (c : Controller) :
    c.releaseLive.Ensures fun _ c' => c'.current = c.current := by
  unfold releaseLive
  split
  · split
    next => rfl
    next live _ =>
      rw [Interaction.ensures_bind]
      refine Interaction.ensures_of_forall (fun t registry => ?_) _
      rw [Interaction.ensures_bind, ensures_log]
      rfl
  · rfl

theorem ensures_current_registerCurrent (c : Controller) :
    c.registerCurrent.Ensures fun _ c' => c'.current = c.current := by
  simp only [registerCurrent, ActiveSet.install, remark, Interaction.ensures_bind, ensures_note,
    ensures_log, ensures_check, Interaction.ensures_pure]
  rfl

theorem ensures_current_activate (c : Controller) (patterns : List String) :
    (c.activate patterns).Ensures fun _ c' => c'.current = patterns := by
  rw [activate, Interaction.ensures_bind]
  refine (ensures_current_releaseLive _).mono fun t c₁ hc₁ => ?_
  split
  · rw [Interaction.ensures_bind, ensures_remark]
    exact hc₁
  · exact (ensures_current_registerCurrent c₁).mono fun u c₂ hc₂ => hc₂.trans hc₁

/-- The exchanges of an operation, and what comes of it, with a store that makes nothing up and that
has no empty pattern at first: there is none in the end, none is active, and what was put into the store
are the sets that it gave, with one proper entry put among them. -/
def Sober (t : List Talk) (r : Except OperationError Outcome × Controller) : Prop :=
  ∀ has has', Tracks has t has' → (∀ sets, has = some sets → PatternSet.Nonblank sets) →
    "" ∉ r.2.current ∧ (∀ sets, has' = some sets → PatternSet.Nonblank sets) ∧
      ∀ new, Talk.putSets new (.ok ()) ∈ t → ∃ sets entry, Talk.getSets (.ok sets) ∈ t ∧
        new = PatternSet.upsert sets entry ∧ entry.Proper

theorem sober_of_isPut {t : List Talk} {r : Except OperationError Outcome × Controller}
    (ht : ∀ x ∈ t, x.isPut = false)
    (hr : (∀ sets, Talk.getSets (.ok sets) ∈ t → PatternSet.Nonblank sets) → "" ∉ r.2.current) :
    Sober t r := by
  intro has has' htracks hhas
  obtain ⟨hkept, hgiven⟩ := htracks.of_isPut ht
  refine ⟨hr fun sets hmem => hhas sets (hgiven sets hmem),
    fun sets hsets => hhas sets (hkept sets hsets), fun new hmem => ?_⟩
  cases ht _ hmem

theorem mem_of_mem_replace {texts : List String} {text target replacement : String}
    (h : text ∈ texts.replace target replacement) : text = replacement ∨ text ∈ texts := by
  induction texts with
  | nil => cases h
  | cons first rest ih =>
    rw [List.replace_cons] at h
    split at h
    · exact (List.mem_cons.mp h).imp_right (List.mem_cons_of_mem first)
    · rcases List.mem_cons.mp h with rfl | h
      · exact .inr List.mem_cons_self
      · exact (ih h).imp_right (List.mem_cons_of_mem first)

theorem Chooses.nonblank {command : SetCommand} {t : List Talk} {patterns : List String}
    (h : c.Chooses command t patterns) (hc : "" ∉ c.current)
    (hgiven : ∀ sets, Talk.getSets (.ok sets) ∈ t → PatternSet.Nonblank sets) : "" ∉ patterns := by
  cases h with
  | define pattern =>
    split
    next => simp
    next hne =>
      rw [List.mem_singleton]
      rintro rfl
      exact hne rfl
  | add pattern hne => simp [hc, hne.symm]
  | remove target record hmem hne => exact fun hmem' => hc (List.mem_of_mem_erase hmem')
  | replace target replacement record hmem hne hne' =>
    intro hmem'
    rcases mem_of_mem_replace hmem' with hempty | hmem'
    · exact hne' hempty.symm
    · exact hc hmem'
  | load sets id set record hfound hne =>
    exact hgiven sets List.mem_cons_self set (List.mem_of_find?_eq_some hfound)

theorem Refused.sober {t : List Talk} {e : StoreError} (h : c.Refused t e) (hc : "" ∉ c.current)
    (result : Except OperationError Outcome) : Sober t (result, c) := by
  intro has has' htracks hhas
  obtain ⟨id, sets⟩ := h
  obtain ⟨-, has₁, hget, has₂, hput, rfl⟩ := htracks
  refine ⟨hc, fun sets' hsets' => ?_, fun new hmem => ?_⟩
  · rcases hput sets' hsets' with hkept | ⟨hfailed, -⟩
    · exact hhas sets' (hget sets' hkept)
    · cases hfailed
  · simp only [List.mem_cons, List.not_mem_nil, or_false] at hmem
    rcases hmem with hask | hget | hput
    · cases hask
    · cases hget
    · cases hput

/-- What is saved is one proper entry, put among the sets that the store gave. -/
theorem Saves.sober {t : List Talk} (h : c.Saves t) (hc : "" ∉ c.current)
    (result : Except OperationError Outcome) : Sober t (result, c) := by
  intro has has' htracks hhas
  obtain ⟨id, sets, record, hactive, hid⟩ := h
  obtain ⟨hgiven, has₁, hget, has₂, hput, rfl⟩ := htracks
  have hsets : PatternSet.Nonblank sets := hhas sets (hgiven sets rfl)
  have hentry : "" ∉ (PatternSet.ofPatterns id c.current).texts := by
    rwa [PatternSet.texts_ofPatterns]
  refine ⟨hc, fun sets' hsets' => ?_, fun new hmem => ?_⟩
  · rcases hput sets' hsets' with hkept | ⟨-, rfl⟩
    · exact hhas sets' (hget sets' hkept)
    · exact hsets.upsert hentry
  · have hproper := PatternSet.proper_ofPatterns hid hactive
    simp only [List.mem_cons, List.not_mem_nil, or_false] at hmem
    rcases hmem with hask | hget | hput | hlog
    · cases hask
    · cases hget
    · cases hput
      exact ⟨sets, _, List.mem_cons_of_mem _ List.mem_cons_self, rfl, hproper⟩
    · cases hlog

/-- No operation brings an empty pattern in. -/
theorem ensures_sober (hc : "" ∉ c.current) (command : SetCommand) :
    (command.operation c).Ensures Sober := by
  refine ensures_operation {
    unchanged := fun t result ht _ _ => sober_of_isPut ht.isPut fun _ => hc
    refused := fun _ t e ht => ht.sober hc _
    activated := fun t patterns ht => ?_
    saved := fun _ t ht => ht.sober hc _ }
  refine ((tells_activate patterns).and (ensures_current_activate c patterns)).mono ?_
  rintro u c' ⟨hu, hcurrent⟩
  refine sober_of_isPut (fun x hx => ?_) fun hgiven => ?_
  · exact (List.mem_append.mp hx).elim (ht.asks.isPut x) (hu.isPut x)
  · rw [hcurrent]
    exact ht.nonblank hc fun sets hmem => hgiven sets (List.mem_append_left u hmem)

/-! ### Choosing -/

theorem leads_askText (placeholder : String) (prefill : Option String)
    (r : Except HostFailure Reply) :
    (askText placeholder prefill).Leads [Talk.prompt (.text (some placeholder) prefill) r]
      (.done (textOf r)) := by
  refine .ask ?_
  rcases r with e | (answer | _) <;> exact .here _

theorem leads_askChoice (options : List String) (placeholder : String)
    (r : Except HostFailure Reply) :
    (askChoice options placeholder).Leads [Talk.prompt (.choice options (some placeholder)) r]
      (.done (choiceOf r)) := by
  refine .ask ?_
  rcases r with e | (answer | _) <;> exact .here _

/-- Any active pattern that is not empty can be chosen, and then there is only one more question. -/
theorem leads_amend {target : String} (hmem : target ∈ c.current) (hne : target ≠ "")
    (replacement : String) :
    c.fix.Leads
      [Talk.prompt (.choice c.current (some "Pattern to fix")) (.ok (.submitted target)),
        Talk.prompt (.text (some "Replacement (empty removes)") (some target))
          (.ok (.submitted replacement))]
      (c.amend target replacement) := by
  have hactive : ¬ c.current.isEmpty = true := by
    rw [List.isEmpty_iff]
    exact List.ne_nil_of_mem hmem
  have hsome : (some target).filter c.current.contains = some target := by simp [hmem]
  have hchosen : choiceOf (.ok (.submitted target)) = .ok (some target) := by simp [choiceOf, hne]
  have hchoice := leads_askChoice c.current "Pattern to fix" (.ok (.submitted target))
  have htext := leads_askText "Replacement (empty removes)" (some target)
    (.ok (.submitted replacement))
  rw [hchosen] at hchoice
  rw [fix, if_neg hactive]
  refine (hchoice.bind _).trans (u := [_]) ?_
  simp only [bind, Interaction.bind]
  rw [hsome]
  exact htext.bind _

theorem ensures_current_amend (c : Controller) (target replacement : String) :
    (c.amend target replacement).Ensures fun _ r => r.1 = .ok .applied ∧
      r.2.current = if replacement = "" then c.current.erase target
        else c.current.replace target replacement := by
  unfold amend
  simp only [String.isEmpty_iff]
  split
  · rw [Interaction.ensures_bind, ensures_remark, ensures_apply]
    exact (ensures_current_activate c _).mono fun _ _ hcurrent => ⟨rfl, hcurrent⟩
  · rw [Interaction.ensures_bind, ensures_remark, ensures_apply]
    exact (ensures_current_activate c _).mono fun _ _ hcurrent => ⟨rfl, hcurrent⟩

end Controller

/-! ## A controller at its store -/

/-- A controller, and a store with the files that it may be on. -/
structure ControllerWithStore (σ : Type) where
  controller : Controller
  store : σ
  tree : Tree

namespace ControllerWithStore

/-- An operation, whoever answers its prompts and whatever fails: its exchanges, what it says, and what
it leaves. -/
structure Goes (b : ControllerWithStore σ) (store : SetStore σ) (command : SetCommand) (t : List Talk)
    (result : Except OperationError Outcome) (b' : ControllerWithStore σ) : Prop where
  course : (command.operation b.controller).Leads t (.done (result, b'.controller))
  answers : store.MayAnswer b.store b.tree t b'.store b'.tree

/-- A controller at the store of a scene. -/
def ofScene (c : Controller) (s : Scene η σ) : ControllerWithStore σ := ⟨c, s.store, s.machine.tree⟩

theorem goes_operate (w : Surroundings η σ) (command : SetCommand) (c : Controller)
    (s : Scene η σ) :
    (ofScene c s).Goes w.store command (w.transcript (command.operation c) s)
      (w.operate command.operation c s).1
      (ofScene (w.operate command.operation c s).2.1 (w.operate command.operation c s).2.2) :=
  ⟨Interaction.leads_transcript w.answer (command.operation c) s,
    (w.answers_run (command.operation c) s).may⟩

variable {valid : σ → Tree → Prop} {held : σ → Tree → Option (List PatternSet)} {b b' : ControllerWithStore σ}

/-- What may become of a controller and its store by operations, with a store that makes nothing up
whenever one is done, and by what others do to the table of providers. -/
inductive Reaches (valid : σ → Tree → Prop) (held : σ → Tree → Option (List PatternSet))
    (b : ControllerWithStore σ) : ControllerWithStore σ → Prop
  | here : Reaches valid held b b
  | operate {b' b'' : ControllerWithStore σ} (before : Reaches valid held b b') {store : SetStore σ}
      (faithful : store.Faithful valid held) {command : SetCommand} {t : List Talk}
      {result : Except OperationError Outcome} (goes : b'.Goes store command t result b'') :
      Reaches valid held b b''
  | others {b' : ControllerWithStore σ} (before : Reaches valid held b b') (registry : Registry) :
      Reaches valid held b { b' with controller := { b'.controller with registry := registry } }

theorem Reaches.run {w : Surroundings η σ} {c : Controller} {s : Scene η σ}
    (h : b.Reaches valid held (ofScene c s)) (hstore : w.store.Faithful valid held)
    (command : SetCommand) : b.Reaches valid held
      (ofScene (w.operate command.operation c s).2.1 (w.operate command.operation c s).2.2) :=
  .operate h hstore (goes_operate w command c s)

/-- The invariant: no empty pattern is active, and none is in the store. -/
structure Clean (valid : σ → Tree → Prop) (held : σ → Tree → Option (List PatternSet))
    (b : ControllerWithStore σ) : Prop where
  valid : valid b.store b.tree
  current : "" ∉ b.controller.current
  sets : ∀ sets, held b.store b.tree = some sets → PatternSet.Nonblank sets

/-- An operation keeps the invariant, and all that it puts into the store is a proper entry. -/
theorem Clean.goes (h : b.Clean valid held) {store : SetStore σ}
    (hstore : store.Faithful valid held) {command : SetCommand} {t : List Talk}
    {result : Except OperationError Outcome} (hgoes : b.Goes store command t result b') :
    b'.Clean valid held ∧ ∀ new, Talk.putSets new (.ok ()) ∈ t →
      ∃ sets entry, Talk.getSets (.ok sets) ∈ t ∧ new = PatternSet.upsert sets entry ∧
        entry.Proper := by
  obtain ⟨hvalid, htracks⟩ := hstore.tracks h.valid hgoes.answers
  have hsober := (Controller.ensures_sober h.current command).of_leads hgoes.course
  obtain ⟨hcurrent, hsets, hputs⟩ := hsober _ _ htracks h.sets
  exact ⟨⟨hvalid, hcurrent, hsets⟩, hputs⟩

theorem Clean.reaches (h : b.Clean valid held) (hreaches : b.Reaches valid held b') :
    b'.Clean valid held := by
  induction hreaches with
  | here => exact h
  | operate _ faithful goes ih => exact (ih.goes faithful goes).1
  | others _ registry ih => exact ⟨ih.valid, ih.current, ih.sets⟩

/-- Whatever becomes of a controller without active patterns, and of a store without empty ones: no
active pattern is empty and neither is one in the store; an operation puts nothing into the store but
one proper entry among the sets that it was given; and each active pattern can be chosen to be replaced
or, by the empty answer, removed. -/
theorem never_blank (hvalid : valid b.store b.tree) (hcurrent : b.controller.current = [])
    (hsets : ∀ sets, held b.store b.tree = some sets → ∀ set ∈ sets, "" ∉ set.texts)
    (hreaches : b.Reaches valid held b') :
    "" ∉ b'.controller.current ∧
      (∀ sets, held b'.store b'.tree = some sets → ∀ set ∈ sets, "" ∉ set.texts) ∧
      (∀ (store : SetStore σ) (command : SetCommand) (t : List Talk)
        (result : Except OperationError Outcome) (b'' : ControllerWithStore σ), store.Faithful valid held →
        b'.Goes store command t result b'' → ∀ new, Talk.putSets new (.ok ()) ∈ t →
          ∃ sets entry, Talk.getSets (.ok sets) ∈ t ∧ new = PatternSet.upsert sets entry ∧
            entry.id ≠ "" ∧ entry.patterns ≠ [] ∧
            ∀ p ∈ entry.patterns, p.ignoreCase = false ∧ p.isRegex = true) ∧
      ∀ target ∈ b'.controller.current, ∀ replacement, ∃ rest, b'.controller.fix.Leads
          [Talk.prompt (.choice b'.controller.current (some "Pattern to fix")) (.ok (.submitted target)),
            Talk.prompt (.text (some "Replacement (empty removes)") (some target))
              (.ok (.submitted replacement))] rest ∧
        rest.Ensures fun _ r => r.1 = .ok .applied ∧ r.2.current =
          if replacement = "" then b'.controller.current.erase target
          else b'.controller.current.replace target replacement := by
  have hstart : b.Clean valid held := ⟨hvalid, by simp [hcurrent], hsets⟩
  have hclean := hstart.reaches hreaches
  refine ⟨hclean.current, hclean.sets, ?_, ?_⟩
  · intro store command t result b'' hstore hgoes new hmem
    obtain ⟨sets, entry, hgiven, hnew, hproper⟩ := (hclean.goes hstore hgoes).2 new hmem
    exact ⟨sets, entry, hgiven, hnew, hproper.id, hproper.patterns, hproper.flags⟩
  · intro target hmem replacement
    have hne : target ≠ "" := by
      rintro rfl
      exact hclean.current hmem
    exact ⟨_, Controller.leads_amend hmem hne replacement,
      Controller.ensures_current_amend _ target replacement⟩

/-- A pattern is defined and then saved, in a file that was not there, and in a list in memory that refuses
to take it at first. -/
theorem never_blank_when_saved :
    (∃ (valid : Unit → Tree → Prop) (held : Unit → Tree → Option (List PatternSet))
      (w : Surroundings (List (Except HostFailure Reply)) Unit)
      (s : Scene (List (Except HostFailure Reply)) Unit)
      (defined saved : Except OperationError Outcome × Controller × Scene _ Unit)
      (b b' : ControllerWithStore Unit),
      valid = (fun _ t => ConfigFile.Attached (Path.ofString "c.json") t) ∧
      held = (fun _ t => SetStore.filed "c.json" t) ∧ w = .scripted (.configFile "c.json") ∧
      s = { host := [.ok (.submitted "TODO"), .ok (.submitted "a")], store := () } ∧
      defined = w.operate (SetCommand.operation .new) (.initial 0) s ∧
      saved = w.operate (SetCommand.operation .save) defined.2.1 defined.2.2 ∧
      b = ofScene (.initial 0) s ∧ b' = ofScene saved.2.1 saved.2.2 ∧
      valid b.store b.tree ∧ b.controller.current = [] ∧ held b.store b.tree = some [] ∧
      b.Reaches valid held b' ∧ saved.1 = .ok .applied ∧ b'.controller.current = ["TODO"] ∧
      (∀ sets, held b'.store b'.tree = some sets → ∀ set ∈ sets, "" ∉ set.texts) ∧
      ∃ rest, b'.controller.fix.Leads
        [Talk.prompt (.choice b'.controller.current (some "Pattern to fix"))
            (.ok (.submitted "TODO")),
          Talk.prompt (.text (some "Replacement (empty removes)") (some "TODO"))
            (.ok (.submitted ""))] rest) ∧
    ∃ (w full : Surroundings (List (Except HostFailure Reply)) (List PatternSet))
      (s : Scene (List (Except HostFailure Reply)) (List PatternSet))
      (defined refused saved : Except OperationError Outcome × Controller × Scene _ (List PatternSet))
      (b b' : ControllerWithStore (List PatternSet)),
      w = .scripted .memory ∧ full = .scripted (SetStore.memory.refusing none (some "full")) ∧
      s = { host := [.ok (.submitted "TODO"), .ok (.submitted "a"), .ok (.submitted "a")], store := [] } ∧
      defined = w.operate (SetCommand.operation .new) (.initial 0) s ∧
      refused = full.operate (SetCommand.operation .save) defined.2.1 defined.2.2 ∧
      saved = w.operate (SetCommand.operation .save) refused.2.1 refused.2.2 ∧
      b = ofScene (.initial 0) s ∧ b' = ofScene saved.2.1 saved.2.2 ∧
      b.Reaches (fun _ _ => True) (fun sets _ => some sets) b' ∧
      refused.1 ≠ .ok .applied ∧ refused.2.2.store = [] ∧ saved.1 = .ok .applied ∧
      b'.store.map PatternSet.id = ["a"] ∧ ∀ set ∈ b'.store, "" ∉ set.texts := by
  have hreaches {σ : Type} {valid : σ → Tree → Prop} {held : σ → Tree → Option (List PatternSet)}
      {b : ControllerWithStore σ} (w : Surroundings (List (Except HostFailure Reply)) σ)
      (hw : w.store.Faithful valid held) (command : SetCommand)
      (s : Scene (List (Except HostFailure Reply)) σ) (c : Controller)
      (h : b.Reaches valid held (ofScene c s)) := h.run hw command
  constructor
  · have hpath : Path.ofString "c.json" = ⟨false, ["c.json"], .name⟩ := by decide +kernel
    have hfile : ConfigFile.ToFile (Path.ofString "c.json") := by
      rw [hpath]
      exact ⟨⟨by decide, by decide⟩, by decide⟩
    have hvalid : ConfigFile.Attached (Path.ofString "c.json") {} := by
      intro hsome
      rw [hpath] at hsome
      exact absurd rfl hsome
    have hheld : SetStore.filed "c.json" {} = some [] := rfl
    have hfaithful := SetStore.faithful_configFile hfile
    have hdefined := hreaches (.scripted (.configFile "c.json")) hfaithful .new
      { host := [.ok (.submitted "TODO"), .ok (.submitted "a")], store := () } (.initial 0) .here
    have hsaved := hreaches (.scripted (.configFile "c.json")) hfaithful .save _ _ hdefined
    obtain ⟨-, hsets, -, hfix⟩ := never_blank hvalid rfl (fun sets hsets => by
      cases hheld.symm.trans hsets
      nofun) hsaved
    obtain ⟨rest, hleads, -⟩ := hfix "TODO" (by decide +kernel) ""
    exact ⟨_, _, _, _, _, _, _, _, rfl, rfl, rfl, rfl, rfl, rfl, rfl, rfl, hvalid, rfl, hheld, hsaved,
      by decide +kernel, by decide +kernel, hsets, rest, hleads⟩
  · have hmemory := SetStore.faithful_memory
    have hdefined := hreaches (.scripted .memory) hmemory .new
      { host := [.ok (.submitted "TODO"), .ok (.submitted "a"), .ok (.submitted "a")], store := [] }
      (.initial 0) .here
    have hrefused := hreaches (.scripted (SetStore.memory.refusing none (some "full")))
      (hmemory.refusing none (some "full")) .save _ _ hdefined
    have hsaved := hreaches (.scripted .memory) hmemory .save _ _ hrefused
    obtain ⟨-, hsets, -⟩ := never_blank trivial rfl (fun sets hsets => by
      cases hsets
      nofun) hsaved
    exact ⟨_, _, _, _, _, _, _, _, rfl, rfl, rfl, rfl, rfl, rfl, rfl, rfl, hsaved, by decide +kernel,
      by decide +kernel, by decide +kernel, by decide +kernel, hsets _ rfl⟩

end ControllerWithStore

end AnchorOutline
