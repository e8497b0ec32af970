import AnchorOutline.Outline.Report
import AnchorOutline.Proofs.Active.Answers
import AnchorOutline.Proofs.Active.Atomicity
import AnchorOutline.Proofs.Active.Sharing
import AnchorOutline.Proofs.Sets.Serving
import AnchorOutline.Proofs.Sets.Upsert

/-!
# Saving and loading

The active patterns that were saved under a name are loaded again under it, whatever is done in
between, as long as nothing else is saved under the name.

* `Follows` : exchanges in which a store gives what was put there last;
* `Surroundings.follows_run` : the exchanges of a run with a store that works;
* `Controller.ensures_saves_under` : an operation puts the active patterns under a name, or nothing;
* `SharingWithStore` : a controller and a store that only it writes, and what may happen to them;
* `SharingWithStore.load_after_save` : what was saved is loaded, and used for an outline.
-/

namespace AnchorOutline

/-! ## Exchanges with a store that works -/

/-- A store that has some sets at first, and others in the end: whenever it is asked, it gives those
that were put there last. -/
def Follows : List PatternSet → List Talk → List PatternSet → Prop
  | sets, [], sets' => sets' = sets
  | sets, ⟨.getSets, r⟩ :: t, sets' => r = .ok sets ∧ Follows sets t sets'
  | _, ⟨.putSets new, r⟩ :: t, sets' => r = .ok () ∧ Follows new t sets'
  | sets, ⟨.prompt _, _⟩ :: t, sets' => Follows sets t sets'
  | sets, ⟨.note _, _⟩ :: t, sets' => Follows sets t sets'
  | sets, ⟨.check _, _⟩ :: t, sets' => Follows sets t sets'

/-- Whether an exchange is an attempt to put sets into the store. -/
def Talk.isPut : Talk → Bool
  | ⟨.putSets _, _⟩ => true
  | _ => false

theorem Asks.isPut {t : List Talk} (h : Asks t) : ∀ x ∈ t, x.isPut = false := by
  rintro ⟨q, answer⟩ hx
  have hasking := h _ hx
  cases q with
  | putSets sets => cases hasking
  | _ => rfl

theorem Tells.isPut {t : List Talk} (h : Tells t) : ∀ x ∈ t, x.isPut = false := by
  rintro ⟨q, answer⟩ hx
  have htelling := h _ hx
  cases q with
  | putSets sets => cases htelling
  | _ => rfl

theorem Follows.eq_of_isPut {sets sets' : List PatternSet} {t : List Talk}
    (h : Follows sets t sets') (ht : ∀ x ∈ t, x.isPut = false) : sets' = sets := by
  induction t with
  | nil => exact h
  | cons x t ih =>
    obtain ⟨q, answer⟩ := x
    have hrest := fun y hy => ht y (List.mem_cons_of_mem _ hy)
    cases q with
    | getSets => exact ih h.2 hrest
    | putSets new => cases ht _ List.mem_cons_self
    | prompt p => exact ih h hrest
    | note n => exact ih h hrest
    | check holds => exact ih h hrest

namespace Surroundings

variable {η σ α β : Type} {w : Surroundings η σ} {s : Scene η σ} {sets : List PatternSet}

theorem works_getSets (h : w.store.Works s.store s.machine.tree sets) :
    (w.answer .getSets s).1 = .ok sets ∧
      w.store.Works (w.answer .getSets s).2.store (w.answer .getSets s).2.machine.tree sets :=
  h.get

theorem works_putSets (h : w.store.Works s.store s.machine.tree sets) (new : List PatternSet) :
    (w.answer (.putSets new) s).1 = .ok () ∧
      w.store.Works (w.answer (.putSets new) s).2.store (w.answer (.putSets new) s).2.machine.tree
        new := by
  obtain ⟨hresult, hworks⟩ := h.put new
  refine ⟨hresult, ?_⟩
  rw [answer]
  dsimp only
  rw [hresult]
  exact hworks

theorem works_note (h : w.store.Works s.store s.machine.tree sets) (n : Note) :
    w.store.Works (w.answer (.note n) s).2.store (w.answer (.note n) s).2.machine.tree sets := by
  cases n <;> exact h

theorem follows_run (h : w.store.Works s.store s.machine.tree sets) (d : Dialogue α) :
    ∃ sets', Follows sets (w.transcript d s) sets' ∧
      w.store.Works (w.run d s).2.store (w.run d s).2.machine.tree sets' := by
  induction d generalizing s sets with
  | done a => exact ⟨sets, rfl, h⟩
  | ask q next ih =>
    cases q with
    | getSets =>
      obtain ⟨hresult, hworks⟩ := works_getSets h
      obtain ⟨sets', hfollows, hend⟩ := ih _ hworks
      exact ⟨sets', ⟨hresult, hfollows⟩, hend⟩
    | putSets new =>
      obtain ⟨hresult, hworks⟩ := works_putSets h new
      obtain ⟨sets', hfollows, hend⟩ := ih _ hworks
      exact ⟨sets', ⟨hresult, hfollows⟩, hend⟩
    | prompt p => exact ih _ (s := (w.answer (.prompt p) s).2) h
    | note n => exact ih () (works_note h n)
    | check holds => exact ih () (s := (w.answer (.check holds) s).2) h

end Surroundings

/-! ## What an operation puts -/

namespace Controller

variable {c : Controller}

/-- With a store that works, an operation leaves the sets as they are, or it saves the active patterns
under the name that it was told. -/
theorem ensures_saves_under (c : Controller) (command : SetCommand) :
    (command.operation c).Ensures fun t _ => ∀ sets sets', Follows sets t sets' →
      sets' = sets ∨ command = .save ∧ ∃ id, Talk.prompt namePrompt (.ok (.submitted id)) ∈ t ∧
        sets' = PatternSet.upsert sets (.ofPatterns id c.current) := by
  refine ensures_operation ⟨?_, ?_, ?_, ?_⟩
  · intro t result ht _ _ sets sets' hfollows
    exact .inl (hfollows.eq_of_isPut ht.isPut)
  · intro _ t e ht sets sets' hfollows
    obtain ⟨id, sets₁⟩ := ht
    obtain ⟨-, hresult, -⟩ := hfollows
    cases hresult
  · intro t patterns ht
    refine (tells_activate patterns).mono fun u c' hu sets sets' hfollows => ?_
    refine .inl (hfollows.eq_of_isPut fun x hx => ?_)
    exact (List.mem_append.mp hx).elim (ht.asks.isPut x) (hu.isPut x)
  · intro hcommand t ht sets sets' hfollows
    obtain ⟨id, sets₁, record, -, -⟩ := ht
    obtain ⟨hsets, -, hend⟩ := hfollows
    cases hsets
    exact .inr ⟨hcommand, id, List.mem_cons_self, hend⟩

end Controller

/-! ## Runs of saving and loading -/

namespace Surroundings

open Controller

variable {η σ α β : Type} {w : Surroundings η σ} {s : Scene η σ} {sets : List PatternSet}
  {c : Controller} {id : String}

theorem run_bind (w : Surroundings η σ) (x : Dialogue α) (f : α → Dialogue β) (s : Scene η σ) :
    w.run (x >>= f) s = w.run (f (w.run x s).1) (w.run x s).2 :=
  Interaction.run_bind w.answer x f s

theorem run_askText (w : Surroundings η σ) (placeholder : String) (prefill : Option String)
    (s : Scene η σ) : w.run (askText placeholder prefill) s =
      (textOf (w.reply (.text (some placeholder) prefill) s.host).1,
        (w.answer (.prompt (.text (some placeholder) prefill)) s).2) := by
  rw [askText, run_bind]
  have hasked : w.run (Dialogue.prompt (.text (some placeholder) prefill)) s =
      w.answer (.prompt (.text (some placeholder) prefill)) s := rfl
  rw [hasked, answer]
  rcases w.reply (.text (some placeholder) prefill) s.host with ⟨e | (answer | _), host⟩ <;> rfl

theorem run_askChoice (w : Surroundings η σ) (options : List String) (placeholder : String)
    (s : Scene η σ) : w.run (askChoice options placeholder) s =
      (choiceOf (w.reply (.choice options (some placeholder)) s.host).1,
        (w.answer (.prompt (.choice options (some placeholder))) s).2) := by
  rw [askChoice, run_bind]
  have hasked : w.run (Dialogue.prompt (.choice options (some placeholder))) s =
      w.answer (.prompt (.choice options (some placeholder))) s := rfl
  rw [hasked, answer]
  rcases w.reply (.choice options (some placeholder)) s.host with ⟨e | (answer | _), host⟩ <;> rfl

theorem run_remark (w : Surroundings η σ) (level : Level) (message : String) (s : Scene η σ) :
    w.run (remark level message) s = w.answer (.note (.log ⟨level, logTarget, message⟩)) s := rfl

theorem run_askSets (h : w.store.Works s.store s.machine.tree sets) :
    w.run askSets s = (.ok sets, (w.answer .getSets s).2) := by
  show (Except.mapError OperationError.store (w.answer .getSets s).1, _) = _
  rw [(works_getSets h).1]
  rfl

theorem run_writeSets (h : w.store.Works s.store s.machine.tree sets) (new : List PatternSet) :
    w.run (writeSets new) s = (.ok (), (w.answer (.putSets new) s).2) := by
  show (Except.mapError OperationError.store (w.answer (.putSets new) s).1, _) = _
  rw [(works_putSets h new).1]
  rfl

theorem run_save (h : w.store.Works s.store s.machine.tree sets) (hactive : c.current ≠ [])
    (hid : id ≠ "") (hreply : (w.reply namePrompt s.host).1 = .ok (.submitted id)) :
    ∃ s', w.run c.save s = ((.ok .applied, c), s') ∧
      w.store.Works s'.store s'.machine.tree (PatternSet.upsert sets (.ofPatterns id c.current)) := by
  have hsome : (some id).filter (!·.isEmpty) = some id := by simp [hid]
  have hprompted : w.store.Works (w.answer (.prompt namePrompt) s).2.store
    (w.answer (.prompt namePrompt) s).2.machine.tree sets := h
  have hread := (works_getSets hprompted).2
  have hwritten := (works_putSets hread (PatternSet.upsert sets (.ofPatterns id c.current))).2
  rw [save, if_neg (by simpa using hactive), run_bind, run_askText, ← namePrompt, hreply]
  simp only [textOf, hsome]
  rw [Controller.store, run_bind, run_askSets hprompted]
  dsimp only
  rw [run_bind, run_writeSets hread]
  dsimp only
  rw [run_bind, run_remark]
  exact ⟨_, rfl, works_note hwritten _⟩

theorem run_load (h : w.store.Works s.store s.machine.tree sets) {set : PatternSet}
    (hfound : PatternSet.find? sets id = some set) (hid : id ≠ "")
    (hreply : ∀ options, (w.reply (.choice options (some "Pattern set to load")) s.host).1 =
      .ok (.submitted id)) {n : Nat} {live : Option Nat} (hholds : c.Holds n live) :
    (w.run c.load s).1 = (.ok .applied, c.switched n live set.texts) := by
  have hnonempty : sets.isEmpty = false := by
    cases sets with
    | nil => cases hfound
    | cons x rest => rfl
  have hhost : (w.answer .getSets s).2.host = s.host := rfl
  rw [load, run_bind, run_askSets h]
  dsimp only
  rw [hnonempty, if_neg (by simp), run_bind, run_askChoice, hhost, hreply]
  simp only [choiceOf, String.isEmpty_iff, hid, if_false, Option.bind_some, hfound]
  rw [run_bind, Controller.apply, run_bind]
  exact Prod.ext rfl ((ensures_activate hholds set.texts).transcript w.answer _).1

end Surroundings

/-! ## A controller at its store -/

/-- A controller whose table is shared, and a store that only it writes, with the machine that the
store is on. -/
structure SharingWithStore (σ : Type) where
  sharing : Sharing
  store : σ
  machine : Machine := {}

namespace SharingWithStore

variable {η σ : Type} {store : SetStore σ} {b b' : SharingWithStore σ}

def scene (b : SharingWithStore σ) (host : η) : Scene η σ := ⟨host, b.store, b.machine, b.sharing.events⟩

/-- An operation at a store, with what it says. -/
def operate (b : SharingWithStore σ) (w : Surroundings η σ) (host : η) (command : SetCommand) :
    Except OperationError Outcome × SharingWithStore σ :=
  let (result, _, scene) := w.operate command.operation b.sharing.controller (b.scene host)
  (result, ⟨b.sharing.operate command w (b.scene host), scene.store, scene.machine⟩)

/-- Whether an operation is told a name to save under. -/
def SavesUnder (b : SharingWithStore σ) (w : Surroundings η σ) (host : η) (command : SetCommand)
    (id : String) : Prop :=
  command = .save ∧ Talk.prompt namePrompt (.ok (.submitted id)) ∈
    w.transcript (command.operation b.sharing.controller) (b.scene host)

/-- What may become of a controller and its store by operations none of which saves under a name, and
by what others do to the table. -/
inductive Continues (store : SetStore σ) (id : String) (b : SharingWithStore σ) : SharingWithStore σ → Prop
  | here : Continues store id b b
  | operate {b' : SharingWithStore σ} (before : Continues store id b b') {η : Type}
      (reply : Prompt → η → Except HostFailure Reply × η) (host : η) (command : SetCommand)
      (other : ¬ b'.SavesUnder ⟨reply, store⟩ host command id) :
      Continues store id b (b'.operate ⟨reply, store⟩ host command).2
  | others {b' : SharingWithStore σ} (before : Continues store id b b') (action : HandledRegistry.Action) :
      Continues store id b { b' with sharing := b'.sharing.act action }

/-- A sound controller, and a store that works and has patterns under a name. -/
structure Keeps (b : SharingWithStore σ) (store : SetStore σ) (n : Nat) (selector : Selector) (id : String)
    (patterns : List String) : Prop where
  sound : b.sharing.Sound n selector
  works : ∃ sets set, store.Works b.store b.machine.tree sets ∧
    PatternSet.find? sets id = some set ∧ set.texts = patterns

variable {n : Nat} {selector : Selector} {id : String} {patterns : List String}

theorem sound_operate (h : b.sharing.Sound n selector) (w : Surroundings η σ) (host : η)
    (command : SetCommand) : (b.operate w host command).2.sharing.Sound n selector :=
  have hevents : (b.scene host).events = b.sharing.events := rfl
  (h.operate command w hevents).1

theorem Keeps.operate (h : b.Keeps store n selector id patterns)
    (reply : Prompt → η → Except HostFailure Reply × η) (host : η) (command : SetCommand)
    (hother : ¬ b.SavesUnder ⟨reply, store⟩ host command id) :
    (b.operate ⟨reply, store⟩ host command).2.Keeps store n selector id patterns := by
  obtain ⟨sets, set, hworks, hfound, htexts⟩ := h.works
  refine ⟨sound_operate h.sound _ host command, ?_⟩
  obtain ⟨sets', hfollows, hend⟩ := Surroundings.follows_run (w := ⟨reply, store⟩)
    (s := b.scene host) hworks (command.operation b.sharing.controller)
  have hlaw := (Controller.ensures_saves_under b.sharing.controller command).transcript
    (Surroundings.answer ⟨reply, store⟩) (b.scene host) sets sets' hfollows
  refine ⟨sets', set, hend, ?_, htexts⟩
  rcases hlaw with rfl | ⟨hcommand, id', hname, rfl⟩
  · exact hfound
  · have hne : id' ≠ id := by
      rintro rfl
      exact hother ⟨hcommand, hname⟩
    rw [PatternSet.find?_upsert_of_ne hne, hfound]

theorem Keeps.continues (h : b.Keeps store n selector id patterns) (hlater : Continues store id b b') :
    b'.Keeps store n selector id patterns := by
  induction hlater with
  | here => exact h
  | operate _ reply host command other ih => exact ih.operate reply host command other
  | others _ action ih => exact ⟨ih.sound.act action, ih.works⟩

theorem keeps_save (hsound : b.sharing.Sound n selector) {sets : List PatternSet}
    (hworks : store.Works b.store b.machine.tree sets)
    (hactive : b.sharing.controller.current ≠ []) (hid : id ≠ "")
    {reply : Prompt → η → Except HostFailure Reply × η} {host : η}
    (hreply : (reply namePrompt host).1 = .ok (.submitted id)) :
    (b.operate ⟨reply, store⟩ host .save).1 = .ok .applied ∧
      (b.operate ⟨reply, store⟩ host .save).2.Keeps store n selector id
        b.sharing.controller.current := by
  obtain ⟨s', hrun, hend⟩ := Surroundings.run_save (w := ⟨reply, store⟩) (s := b.scene host) hworks
    hactive hid hreply
  have hoperate : Surroundings.operate ⟨reply, store⟩ Controller.save b.sharing.controller
      (b.scene host) = (.ok .applied, b.sharing.controller, s') := by
    rw [Surroundings.operate, hrun]
  have hsaved : b.operate ⟨reply, store⟩ host .save =
      (.ok .applied, ⟨b.sharing.operate .save ⟨reply, store⟩ (b.scene host), s'.store, s'.machine⟩) := by
    rw [operate, SetCommand.operation, hoperate]
  have hkept := sound_operate hsound ⟨reply, store⟩ host .save
  rw [hsaved] at hkept ⊢
  refine ⟨rfl, hkept, _, _, hend, PatternSet.find?_upsert_self sets _, ?_⟩
  exact PatternSet.texts_ofPatterns id b.sharing.controller.current

/-- The one entry that a controller with active patterns has in the table. -/
theorem own_of_sound {s : Sharing} (h : s.Sound n selector) (hactive : s.controller.current ≠ []) :
    (s.own.map fun e => (e.selector, e.provider.patterns)) = [(selector, s.controller.current)] := by
  obtain ⟨live, -, hlive, hown⟩ := h.controller.live
  rw [Sharing.own, hown]
  cases live with
  | none => exact absurd (hlive.mp rfl) hactive
  | some id => rfl

theorem Keeps.load (h : b.Keeps store n selector id patterns) (hactive : patterns ≠ [])
    (hid : id ≠ "") {reply : Prompt → η → Except HostFailure Reply × η} {host : η}
    (hreply : ∀ options, (reply (.choice options (some "Pattern set to load")) host).1 =
      .ok (.submitted id)) :
    let loaded := b.operate ⟨reply, store⟩ host .load
    loaded.1 = .ok .applied ∧ loaded.2.sharing.controller.current = patterns ∧
      (loaded.2.sharing.own.map fun e => (e.selector, e.provider.patterns)) =
        [(selector, patterns)] := by
  intro loaded
  obtain ⟨sets, set, hworks, hfound, htexts⟩ := h.works
  obtain ⟨live, hholds, -, -⟩ := h.sound.controller.live
  have hrun := Surroundings.run_load (w := ⟨reply, store⟩) (s := b.scene host) hworks hfound hid
    hreply hholds
  have hresult : loaded.1 = .ok .applied := congrArg Prod.fst hrun
  have hcontroller : loaded.2.sharing.controller =
      b.sharing.controller.switched n live set.texts := congrArg Prod.snd hrun
  have hcurrent : loaded.2.sharing.controller.current = patterns := by
    rw [hcontroller, Controller.current_switched, htexts]
  refine ⟨hresult, hcurrent, ?_⟩
  have hown := own_of_sound (sound_operate h.sound ⟨reply, store⟩ host .load)
    (by rw [← hcurrent] at hactive; exact hactive)
  exact hown.trans (by rw [← hcurrent])

theorem Keeps.assemble (h : b.Keeps store n selector id patterns) (hactive : patterns ≠ [])
    (extra : List String) :
    (b.machine.run (assemblePatterns store b.store (some id) extra)).1 = .ok (patterns ++ extra) := by
  obtain ⟨sets, set, hworks, hfound, htexts⟩ := h.works
  have hsaved : savedPatterns sets id = .ok patterns := by
    simp only [savedPatterns, hfound, htexts]
  have hnonempty : (patterns ++ extra).isEmpty = false := by simp [hactive]
  rw [assemblePatterns, Machine.run_bind]
  dsimp only
  rw [Machine.run_bind, hworks.get.1]
  show (do
    let saved ← savedPatterns sets id
    if (saved ++ extra).isEmpty then .error .noPatterns else .ok (saved ++ extra)) = _
  rw [hsaved]
  show (if (patterns ++ extra).isEmpty then _ else _) = _
  rw [hnonempty]
  rfl

/-- Saving the active patterns under a name succeeds with a store that works. Whatever happens then, as
long as nothing else is saved under the name, they are what an outline by the name is made from, and
loading the name makes them the active patterns again, with the one entry for them. -/
theorem load_after_save {η₀ σ₀ : Type} {state : σ} {machine : Machine} {sets : List PatternSet}
    (hworks : store.Works state machine.tree sets) (n : Nat) (selector : Selector)
    (moves : List (Move η₀ σ₀))
    (hactive : ((Sharing.start n selector).run moves).controller.current ≠ [])
    (hid : id ≠ "") {reply : Prompt → η → Except HostFailure Reply × η} {host : η}
    (hreply : (reply namePrompt host).1 = .ok (.submitted id)) :
    let b : SharingWithStore σ := ⟨(Sharing.start n selector).run moves, state, machine⟩
    let patterns := b.sharing.controller.current
    let saved := b.operate ⟨reply, store⟩ host .save
    saved.1 = .ok .applied ∧ ∀ b', Continues store id saved.2 b' →
      (∀ extra, (b'.machine.run (assemblePatterns store b'.store (some id) extra)).1 =
        .ok (patterns ++ extra)) ∧
      ∀ {η' : Type} (reply' : Prompt → η' → Except HostFailure Reply × η') (host' : η'),
        (∀ options, (reply' (.choice options (some "Pattern set to load")) host').1 =
          .ok (.submitted id)) →
        let loaded := b'.operate ⟨reply', store⟩ host' .load
        loaded.1 = .ok .applied ∧ loaded.2.sharing.controller.current = patterns ∧
          (loaded.2.sharing.own.map fun e => (e.selector, e.provider.patterns)) =
            [(selector, patterns)] := by
  intro b patterns saved
  obtain ⟨hresult, hkeeps⟩ :=
    keeps_save (b := b) (Sharing.sound_run n selector moves) hworks hactive hid hreply
  refine ⟨hresult, fun b' hlater => ?_⟩
  have hkept := hkeeps.continues hlater
  exact ⟨hkept.assemble hactive, fun reply' host' hreply' => hkept.load hactive hid hreply'⟩

/-- A pattern is saved under a name in a file that was not there. It is given up for another one, and
then loaded. -/
theorem load_after_save_in_new_file :
    ∃ (w : Surroundings (List (Except HostFailure Reply)) Unit) (b : SharingWithStore Unit)
      (saved later loaded : Except OperationError Outcome × SharingWithStore Unit),
      w = .scripted (.configFile "c.json") ∧
      b = ⟨(Sharing.start 0 .filesAndUntitled).run
        [Move.operate .new w [.ok (.submitted "TODO")] () {}], (), {}⟩ ∧
      saved = b.operate w [.ok (.submitted "a")] .save ∧
      later = saved.2.operate w [.ok (.submitted "FIXME")] .new ∧
      loaded = later.2.operate w [.ok (.submitted "a")] .load ∧
      b.sharing.controller.current = ["TODO"] ∧ saved.1 = .ok .applied ∧
      later.2.sharing.controller.current = ["FIXME"] ∧ loaded.1 = .ok .applied ∧
      loaded.2.sharing.controller.current = b.sharing.controller.current := by
  have hpath : Path.ofString "c.json" = ⟨false, ["c.json"], .name⟩ := by decide +kernel
  have hreplaceable : ConfigFile.Replaceable (Path.ofString "c.json") {} := by
    rw [hpath]
    exact fun _ => rfl
  have hworks : (SetStore.configFile "c.json").Works () (Machine.tree {}) [] :=
    .configFile ⟨rfl, hreplaceable⟩ (by simp [Config.Exact])
  obtain ⟨hsaved, hlater⟩ := load_after_save hworks 0 .filesAndUntitled
    [Move.operate .new ⟨Surroundings.nextAnswer, .configFile "c.json"⟩ [.ok (.submitted "TODO")] ()
      {}] (by decide) (by decide)
    (rfl : (Surroundings.nextAnswer namePrompt [.ok (.submitted "a")]).1 = .ok (.submitted "a"))
  obtain ⟨-, hloads⟩ := hlater _ (.operate .here Surroundings.nextAnswer
    [.ok (.submitted "FIXME")] .new fun h => by cases h.1)
  obtain ⟨hloaded, hcurrent, -⟩ := hloads Surroundings.nextAnswer [.ok (.submitted "a")] fun _ => rfl
  exact ⟨⟨Surroundings.nextAnswer, .configFile "c.json"⟩, _, _, _, _, rfl, rfl, rfl, rfl, rfl,
    by decide +kernel, hsaved, by decide +kernel, hloaded, hcurrent⟩

end SharingWithStore

end AnchorOutline
