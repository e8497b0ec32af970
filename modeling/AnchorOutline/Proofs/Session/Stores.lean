import AnchorOutline.Proofs.Session.Mirrors
import AnchorOutline.Proofs.Session.Run

/-!
# Sessions with different stores

A session that keeps its sets in a config file and one that keeps them in memory go the same for any
input, as long as the file they show, and what others change meanwhile, have nothing to do with what is
made or moved when something is saved.

* `Matches` : programs of the two that come to the same;
* `Session.matches_feed` : the steps of the two for a line;
* `Session.Alongside.play` : the two sessions from a step on;
* `Session.configFile_eq_memory` : the two sessions as a whole.
-/

namespace AnchorOutline

/-! ## Programs -/

/-- A program of the session with a config file, and one of the session with a list: the result of the
second is that of the first, seen with the sets that there are then. -/
def Matches {α β : Type} (path file : String) (t₀ : Tree) (view : List PatternSet → α → β)
    (m m' : Machine) (x : Action α) (x' : Action β) : Prop :=
  ∃ sets, (m'.run x').1 = view sets (m.run x).1 ∧
    Mirrors path file t₀ (m.run x).2.tree (m'.run x').2.tree sets

/-- A call that changes nothing, and is answered alike in both sessions. -/
def AnsweredAlike (path file : String) (t₀ : Tree) (call : SystemCall) : Prop :=
  call.isReading = true ∧ ∀ {m m' : Machine} {sets : List PatternSet},
    Mirrors path file t₀ m.tree m'.tree sets → (m.answer call).1 = (m'.answer call).1

theorem answeredAlike_log (path file : String) (t₀ : Tree) (record : LogRecord) :
    AnsweredAlike path file t₀ (.log record) := ⟨rfl, fun _ => rfl⟩

theorem answeredAlike_read {path file : String} {t₀ : Tree} (hfile : ConfigFile.Shows path file t₀) :
    AnsweredAlike path file t₀ (.read (Path.ofString file)) := ⟨rfl, fun h => h.read_eq hfile⟩

namespace Matches

variable {path file : String} {t₀ : Tree} {m m' : Machine} {sets : List PatternSet} {α β γ δ : Type}

theorem pure (h : Mirrors path file t₀ m.tree m'.tree sets) {view : List PatternSet → α → β} {a : α} {b : β}
    (hview : b = view sets a) : Matches path file t₀ view m m' (Pure.pure a) (Pure.pure b) :=
  ⟨sets, hview, h⟩

theorem bind {view : List PatternSet → α → β} {view' : List PatternSet → γ → δ} {x : Action α}
    {x' : Action β} {f : α → Action γ} {f' : β → Action δ} (hx : Matches path file t₀ view m m' x x')
    (hf : ∀ {n n' : Machine} {sets : List PatternSet}, Mirrors path file t₀ n.tree n'.tree sets →
      Matches path file t₀ view' n n' (f (m.run x).1) (f' (view sets (m.run x).1))) :
    Matches path file t₀ view' m m' (x >>= f) (x' >>= f') := by
  obtain ⟨sets, hresult, hmirrors⟩ := hx
  rw [Matches, Machine.run_bind, Machine.run_bind, hresult]
  exact hf hmirrors

theorem run_alike (h : Mirrors path file t₀ m.tree m'.tree sets) {x : Action α}
    (hx : x.AsksOnly (AnsweredAlike path file t₀)) : (m.run x).1 = (m'.run x).1 ∧
      Mirrors path file t₀ (m.run x).2.tree (m'.run x).2.tree sets := by
  induction x generalizing m m' with
  | done a => exact ⟨rfl, h⟩
  | ask call next ih =>
    obtain ⟨⟨hreading, halike⟩, hnext⟩ := hx
    have hmirrors : Mirrors path file t₀ (m.answer call).2.tree (m'.answer call).2.tree sets := by
      rwa [Machine.tree_answer_of_isReading hreading, Machine.tree_answer_of_isReading hreading]
    have hrest := ih (m.answer call).1 hmirrors (hnext _)
    have hrun (m : Machine) : m.run (.ask call next) =
        (m.answer call).2.run (next (m.answer call).1) := rfl
    rw [hrun, hrun, ← halike h]
    exact hrest

/-- What is asked only where the answers are alike comes to the same in both sessions. -/
theorem alike {view : List PatternSet → β → γ} (h : Mirrors path file t₀ m.tree m'.tree sets) {x : Action α}
    (hx : x.AsksOnly (AnsweredAlike path file t₀)) {f : α → Action β} {f' : α → Action γ}
    (hf : ∀ {m m' : Machine} (a : α), Mirrors path file t₀ m.tree m'.tree sets →
      Matches path file t₀ view m m' (f a) (f' a)) : Matches path file t₀ view m m' (x >>= f) (x >>= f') := by
  obtain ⟨hresult, hmirrors⟩ := run_alike h hx
  rw [Matches, Machine.run_bind, Machine.run_bind, ← hresult]
  exact hf _ hmirrors

theorem getSets (h : Mirrors path file t₀ m.tree m'.tree sets) :
    Matches path file t₀ (fun sets a => (a.1, sets)) m m' ((SetStore.configFile path).get ())
      (SetStore.memory.get sets) := by
  obtain ⟨c, hserves, -, hsets⟩ := h.serves
  obtain ⟨hresult, htree⟩ := hserves.run_sets
  refine ⟨sets, ?_, ?_⟩ <;> rw [SetStore.configFile, Machine.run_bind]
  · rw [hresult, hsets]
    rfl
  · show Mirrors path file t₀ (m.run (ConfigFile.sets path)).2.tree m'.tree sets
    rwa [htree]

theorem putSets (h : Mirrors path file t₀ m.tree m'.tree sets) (new : List PatternSet) :
    Matches path file t₀ (fun sets a => (a.1, sets)) m m' ((SetStore.configFile path).put new ())
      (SetStore.memory.put new sets) := by
  obtain ⟨c, hserves, hexact, -⟩ := h.serves
  obtain ⟨hresult, hnew⟩ := hserves.run_putSets hexact new
  have hedited := Machine.run_edited (ConfigFile.within_putSets path new) m
  refine ⟨new, ?_, ?_⟩ <;> rw [SetStore.configFile, Machine.run_bind]
  · rw [hresult]
    rfl
  · exact h.save hedited ⟨{ c with sets := new }, hnew, hexact, rfl⟩

end Matches

/-! ## Sessions but for their stores -/

section WithStore

variable {σ τ α : Type}

def Session.Progress.withStore (store : τ) : Progress σ α → Progress τ α
  | .finished result _ => .finished result store
  | .waiting p next _ => .waiting p next store

def Session.withStore (store : τ) (s : Session σ) : Session τ := ⟨s.controller, store, s.phase⟩

def Step.withStore (store : τ) (step : Step σ) : Step τ :=
  ⟨step.output, step.session.withStore store, step.ending⟩

end WithStore

/-- Questions that nobody has to answer. -/
def Question.isTelling : Question → Bool
  | .note _ | .check _ => true
  | .prompt _ | .getSets | .putSets _ => false

namespace Session

/-- What stays the same in a session with a config file. -/
def inFile (engine : Regex.Engine) (file path : String) : SessionSetup Unit :=
  ⟨engine, file, .configFile path⟩

/-- What stays the same in a session with a list in memory. -/
def inMemory (engine : Regex.Engine) (file : String) : SessionSetup (List PatternSet) :=
  ⟨engine, file, .memory⟩

variable {engine : Regex.Engine} {file path : String} {t₀ : Tree} {m m' : Machine}
  {sets : List PatternSet} {s : Session Unit} {α : Type}

/-! ## Steps -/

theorem asksOnly_takeNote {P : SystemCall → Prop} (hlog : ∀ record, P (.log record)) (n : Note) :
    (takeNote n).AsksOnly P := by
  cases n with
  | log record => exact ⟨hlog record, fun _ => trivial⟩
  | disposedBaseline index =>
    rw [takeNote]
    split
    next => exact ⟨hlog _, fun _ => trivial⟩
    next => trivial
  | registered id selector patterns => trivial
  | disposed id => trivial

theorem reads_log (W : List String → Prop) (record : LogRecord) :
    (SystemCall.log record).isReading = true ∧ ∀ q ∈ (SystemCall.log record).places, W q :=
  ⟨rfl, fun q hq => by cases hq⟩

theorem reads_takeNote (W : List String → Prop) (n : Note) : (takeNote n).Reads W :=
  asksOnly_takeNote (reads_log W) n

theorem matches_advance (h : Mirrors path file t₀ m.tree m'.tree sets) (d : Dialogue α) :
    Matches path file t₀ Progress.withStore m m' (advance (.configFile path) d ())
      (advance .memory d sets) := by
  induction d generalizing m m' sets with
  | done result => exact .pure h rfl
  | ask q next ih =>
    cases q with
    | prompt p => exact .pure h rfl
    | getSets => exact (Matches.getSets h).bind fun h => ih _ h
    | putSets new => exact (Matches.putSets h new).bind fun h => ih _ h
    | note n =>
      have hnote : (takeNote n).AsksOnly (AnsweredAlike path file t₀) :=
        asksOnly_takeNote (answeredAlike_log path file t₀) n
      exact Matches.alike h hnote fun _ h => ih () h
    | check holds => exact ih () h

theorem matches_proceed (h : Mirrors path file t₀ m.tree m'.tree sets) (s : Session Unit)
    (command : SetCommand) (operation : Operation) :
    Matches path file t₀ Step.withStore m m' (proceed (inFile engine file path) s command operation)
      (proceed (inMemory engine file) (s.withStore sets) command operation) := by
  refine (matches_advance h operation).bind fun h => ?_
  cases (m.run (advance (.configFile path) operation ())).1 with
  | waiting p next store => exact .pure h rfl
  | finished result store => exact .pure h rfl

theorem asksOnly_showLines {σ : Type} {setup : SessionSetup σ} {P : SystemCall → Prop}
    (hlog : ∀ record, P (.log record)) (hread : P (.read (Path.ofString setup.file))) (s : Session σ) :
    (showLines setup s).AsksOnly P := by
  refine .bind (.bind (Action.asksOnly_readText hread) fun text => ?_) fun document => ?_
  · cases text <;> trivial
  · cases document with
    | error e => trivial
    | ok document =>
      refine .bind (.forIn (fun record _ => ?_) _ _) fun _ => ?_
      · exact ⟨hlog record, fun _ => trivial⟩
      · split <;> trivial

theorem asksOnly_shutdown (c : Controller) : c.shutdown.AsksOnly (·.isTelling = true) := by
  refine .bind (.foldlM (fun registry subscription => ?_) _ _) fun registry => ?_
  · cases subscription with
    | baseline index => exact ⟨rfl, fun _ => trivial⟩
    | registration id => exact ⟨rfl, fun _ => ⟨rfl, fun _ => trivial⟩⟩
  · exact ⟨rfl, fun _ => trivial⟩

theorem finished_of_asksOnly {σ : Type} (store : SetStore σ) {d : Dialogue α}
    (h : d.AsksOnly (·.isTelling = true)) (state : σ) (m : Machine) :
    ∃ result, (m.run (advance store d state)).1 = .finished result state := by
  induction d generalizing m with
  | done result => exact ⟨result, rfl⟩
  | ask q next ih =>
    obtain ⟨htelling, hnext⟩ := h
    cases q with
    | prompt p => cases htelling
    | getSets => cases htelling
    | putSets new => cases htelling
    | note n =>
      rw [advance, Machine.run_bind]
      exact ih () (hnext ()) _
    | check holds => exact ih () (hnext ()) m

theorem matches_close (h : Mirrors path file t₀ m.tree m'.tree sets) (s : Session Unit) :
    Matches path file t₀ Step.withStore m m' (close (inFile engine file path) s)
      (close (inMemory engine file) (s.withStore sets)) := by
  obtain ⟨registry, hfinished⟩ := finished_of_asksOnly (.configFile path)
    (asksOnly_shutdown s.controller) () m
  refine (matches_advance h s.controller.shutdown).bind fun h => ?_
  rw [hfinished]
  exact .pure h rfl

theorem matches_obey (h : Mirrors path file t₀ m.tree m'.tree sets)
    (hfile : ConfigFile.Shows path file t₀)
    (s : Session Unit) (command : SessionCommand) :
    Matches path file t₀ Step.withStore m m' (obey (inFile engine file path) s command)
      (obey (inMemory engine file) (s.withStore sets) command) := by
  cases command with
  | onSet command => exact matches_proceed h s command _
  | «show» =>
    have hlines : (showLines (inFile engine file path) s).AsksOnly (AnsweredAlike path file t₀) := by
      refine asksOnly_showLines (answeredAlike_log path file t₀) ?_ s
      exact answeredAlike_read hfile
    exact Matches.alike h hlines fun lines h => .pure h rfl
  | list => exact .pure h rfl
  | help => exact .pure h rfl
  | quit => exact matches_close h s
  | nothing => exact .pure h rfl
  | unknown text => exact .pure h rfl

theorem matches_feed (h : Mirrors path file t₀ m.tree m'.tree sets)
    (hfile : ConfigFile.Shows path file t₀)
    (s : Session Unit) (line : Terminal.Line) :
    Matches path file t₀ Step.withStore m m' (s.feed (inFile engine file path) line)
      ((s.withStore sets).feed (inMemory engine file) line) := by
  obtain ⟨controller, store, phase⟩ := s
  cases phase with
  | command =>
    cases line with
    | text line => exact matches_obey h hfile _ _
    | «over» => exact matches_close h _
    | failed e => exact .pure h rfl
  | prompt command p next =>
    cases line with
    | «over» => exact matches_proceed h _ command _
    | failed e => exact matches_proceed h _ command _
    | text line =>
      simp only [feed, withStore]
      split
      next => exact matches_proceed h _ command _
      next => exact .pure h rfl

/-! ## Whole sessions -/

/-- The terminal of a session with a config file and that of one with a list, at the same point. What
others are still going to change is harmless. -/
structure Alongside (path file : String) (t₀ : Tree) (t t' : Terminal) (sets : List PatternSet) : Prop where
  input : t'.input = t.input
  output : t'.output = t.output
  mirrors : Mirrors path file t₀ t.machine.tree t'.machine.tree sets
  others : ∀ c, .change c ∈ t.input → ConfigFile.Harmless path file t₀ c.path

namespace Alongside

variable {t t' : Terminal}

theorem print (h : Alongside path file t₀ t t' sets) (text : String) :
    (t'.print text).1 = (t.print text).1 ∧
      Alongside path file t₀ (t.print text).2 (t'.print text).2 sets := by
  have hsame : t'.print text =
      ((t.print text).1, { t' with output := (t.print text).2.output }) := by
    rw [Terminal.print, h.output]
    rfl
  rw [hsame]
  exact ⟨rfl, h.input, rfl, h.mirrors, h.others⟩

theorem nextLine (h : Alongside path file t₀ t t' sets) :
    t'.nextLine.1 = t.nextLine.1 ∧ Alongside path file t₀ t.nextLine.2 t'.nextLine.2 sets := by
  obtain ⟨hchanges, hrest⟩ := Terminal.changes_of_readLine [] t.input
  rw [Terminal.nextLine, Terminal.nextLine, h.input]
  exact ⟨rfl, rfl, h.output, h.mirrors.changes fun c hc => h.others c (hchanges c hc),
    fun c hc => h.others c (hrest c hc)⟩

theorem feed (h : Alongside path file t₀ t t' sets)
    (hfile : ConfigFile.Shows path file t₀) (engine : Regex.Engine)
    (s : Session Unit) (line : Terminal.Line) :
    ∃ sets', (t'.perform ((s.withStore sets).feed (inMemory engine file) line)).1 =
        (t.perform (s.feed (inFile engine file path) line)).1.withStore sets' ∧
      Alongside path file t₀ (t.perform (s.feed (inFile engine file path) line)).2
        (t'.perform ((s.withStore sets).feed (inMemory engine file) line)).2 sets' := by
  obtain ⟨sets', hstep, hmirrors⟩ := matches_feed h.mirrors hfile s line
  exact ⟨sets', hstep, h.input, h.output, hmirrors, h.others⟩

end Alongside

/-- Two sessions that are over, and ended in the same way. -/
structure SameEnd (path file : String) (t₀ : Tree) (played : Played Unit)
    (played' : Played (List PatternSet)) : Prop where
  ending : played.ending = played'.ending
  output : played.terminal.output = played'.terminal.output
  mirrors : Mirrors path file t₀ played.terminal.machine.tree played'.terminal.machine.tree
    played'.session.store

variable {t t' : Terminal}

theorem Alongside.sameEnd (h : Alongside path file t₀ t t' sets) (ending : Ending) (s : Session Unit) :
    SameEnd path file t₀ ⟨ending, s, t⟩ ⟨ending, s.withStore sets, t'⟩ :=
  ⟨rfl, h.output.symm, h.mirrors⟩

theorem Alongside.printed (h : Alongside path file t₀ t t' sets) (step : Step Unit)
    {rest : Terminal → Played Unit} {rest' : Terminal → Played (List PatternSet)}
    (hrest : ∀ u', Alongside path file t₀ (t.print step.output).2 u' sets →
      SameEnd path file t₀ (rest (t.print step.output).2) (rest' u')) :
    SameEnd path file t₀
      (match t.print step.output with
        | (.error e, t) => ⟨.failed e, step.session, t⟩
        | (.ok (), t) =>
          match step.ending with
          | some ending => ⟨ending, step.session, t⟩
          | none => rest t)
      (match t'.print step.output with
        | (.error e, t) => ⟨.failed e, step.session.withStore sets, t⟩
        | (.ok (), t) =>
          match step.ending with
          | some ending => ⟨ending, step.session.withStore sets, t⟩
          | none => rest' t) := by
  obtain ⟨hprinted, hnext⟩ := h.print step.output
  revert hprinted hnext hrest
  generalize t.print step.output = printed, t'.print step.output = printed'
  obtain ⟨r, u⟩ := printed
  obtain ⟨r', u'⟩ := printed'
  intro hrest hprinted hnext
  obtain rfl : r' = r := hprinted
  cases r' with
  | error e => exact hnext.sameEnd (.failed e) step.session
  | ok printed =>
    cases step.ending with
    | some ending => exact hnext.sameEnd ending step.session
    | none => exact hrest u' hnext

theorem Alongside.finish (h : Alongside path file t₀ t t' sets)
    (hfile : ConfigFile.Shows path file t₀) (n : Nat)
    (step : Step Unit) : SameEnd path file t₀ (finish (inFile engine file path) n step t)
      (finish (inMemory engine file) n (step.withStore sets) t') := by
  induction n generalizing step t t' sets with
  | zero => exact h.sameEnd .quit step.session
  | succ n ih =>
    refine h.printed step fun u' hnext => ?_
    obtain ⟨sets', hstep, hfed⟩ := hnext.feed hfile engine step.session .over
    dsimp only
    rw [Step.withStore, hstep]
    exact ih hfed _

theorem play_eq {σ : Type} (setup : SessionSetup σ) (step : Step σ) (t : Terminal) :
    play setup step t = match t.print step.output with
      | (.error e, t) => ⟨.failed e, step.session, t⟩
      | (.ok (), t) =>
        match step.ending with
        | some ending => ⟨ending, step.session, t⟩
        | none =>
          let next := t.nextLine.2.perform (step.session.feed setup t.nextLine.1)
          if t.nextLine.1 = .over then Session.finish setup 2 next.1 next.2
          else play setup next.1 next.2 := by
  rw [play]
  split
  next hp => rw [hp]
  next hp =>
    rw [hp]
    cases step.ending with
    | some ending => rfl
    | none =>
      dsimp only
      split
      next hl => simp [hl]
      next hl => simp [hl]
      next hl => simp [hl]

theorem Alongside.play (h : Alongside path file t₀ t t' sets)
    (hfile : ConfigFile.Shows path file t₀)
    (step : Step Unit) : SameEnd path file t₀ (play (inFile engine file path) step t)
      (play (inMemory engine file) (step.withStore sets) t') := by
  induction hweight : Terminal.weight t.input using Nat.strongRecOn
    generalizing step t t' sets with
  | ind w ih =>
    rw [play_eq, play_eq]
    refine h.printed step fun u' hnext => ?_
    obtain ⟨hline, hread⟩ := hnext.nextLine
    obtain ⟨sets', hstep, hfed⟩ :=
      hread.feed hfile engine step.session (t.print step.output).2.nextLine.1
    dsimp only
    rw [Step.withStore, hline, hstep]
    split
    next => exact hfed.finish hfile 2 _
    next hmore =>
      refine ih _ ?_ hfed _ rfl
      have hless := Terminal.weight_nextLine_lt hmore
      rwa [Terminal.input_print, hweight] at hless

/-- A session that keeps its sets in a config file ends in the same way, prints the same and has the same
sets in the end as one that begins with the sets of the file and keeps them in memory: if the file can be
read and replaced and has no doubles, if what saving makes and moves does not show in the file that is
shown, and if what others change is harmless. -/
theorem configFile_eq_memory (engine : Regex.Engine) (file path : String) {t : Terminal} {c : Config}
    (hserves : ConfigFile.Serves path t.machine.tree c) (hexact : c.Exact)
    (hfile : ConfigFile.Shows path file t.machine.tree)
    (hothers : ∀ c, .change c ∈ t.input → ConfigFile.Harmless path file t.machine.tree c.path) :
    let played := playAll ⟨engine, file, .configFile path⟩ () t
    let played' := playAll ⟨engine, file, .memory⟩ c.sets t
    played.ending = played'.ending ∧ played.terminal.output = played'.terminal.output ∧
      (played.terminal.machine.run ((SetStore.configFile path).get played.session.store)).1.1 =
        (played'.terminal.machine.run (SetStore.memory.get played'.session.store)).1.1 := by
  intro played played'
  have halong : Alongside path file t.machine.tree t t c.sets :=
    ⟨rfl, rfl, .start hserves hexact, hothers⟩
  have hend : SameEnd path file t.machine.tree played played' := halong.play hfile (start ())
  obtain ⟨sets, hget, -⟩ := Matches.getSets hend.mirrors
  exact ⟨hend.ending, hend.output, (congrArg Prod.fst hget).symm⟩

/-- A pattern is saved in a file in a new directory. The file that is shown is made by someone else while
the name to save under is awaited, and later another one in that directory. -/
theorem configFile_eq_memory_in_new_directory :
    let t : Terminal := {
      input := [.bytes "new\nTODO\nsave\n".toByteArray.data.toList,
        .change (.write (Path.ofString "notes") "TODO x".toByteArray),
        .bytes "n\n".toByteArray.data.toList,
        .change (.write (Path.ofString "d/x") "TODO y".toByteArray),
        .bytes "show\n".toByteArray.data.toList] }
    let played := playAll ⟨Regex.engine, "notes", .configFile "d/c.json"⟩ () t
    let played' := playAll ⟨Regex.engine, "notes", .memory⟩ [] t
    played.ending = played'.ending ∧ played.terminal.output = played'.terminal.output ∧
      (played.terminal.machine.run ((SetStore.configFile "d/c.json").get played.session.store)).1.1 =
        (played'.terminal.machine.run (SetStore.memory.get played'.session.store)).1.1 := by
  intro t played played'
  have hpath : Path.ofString "d/c.json" = ⟨false, ["d", "c.json"], .name⟩ := by decide +kernel
  have hnotes : Path.ofString "notes" = ⟨false, ["notes"], .name⟩ := by decide +kernel
  have hother : Path.ofString "d/x" = ⟨false, ["d", "x"], .name⟩ := by decide +kernel
  have hserves : ConfigFile.Serves "d/c.json" t.machine.tree {} := by
    constructor
    · rw [ConfigFile.given, hpath]
      rfl
    · rw [hpath]
      exact fun _ => rfl
  have hexact : ({} : Config).Exact := by simp [Config.Exact]
  have hapart : ∀ q ∈ (Path.ofString "notes").places,
      ¬ ConfigFile.Place (Path.ofString "d/c.json") q := by
    rw [hnotes, hpath]
    unfold ConfigFile.Place
    decide +kernel
  have haside : ConfigFile.Aside "d/c.json" t.machine.tree ["d", "x"] := by
    refine ⟨⟨⟨false, ["d"], .name⟩, ["d"], "x", ?_, ?_, rfl, rfl⟩, ?_, rfl, ?_⟩
    · rw [hpath]
      rfl
    · decide +kernel
    · rw [hpath]
      unfold ConfigFile.Place
      decide +kernel
    · unfold Tree.Nameable
      decide +kernel
  refine configFile_eq_memory Regex.engine "notes" "d/c.json" hserves hexact
    (.inl fun q hq hplace => absurd hplace (hapart q hq)) fun c hc => ?_
  obtain rfl | rfl : c = .write (Path.ofString "notes") "TODO x".toByteArray ∨
      c = .write (Path.ofString "d/x") "TODO y".toByteArray := by simpa [t] using hc
  · exact .inl fun q hq hplace => absurd (.inl hplace) (hapart q hq)
  · refine .inr ⟨["d", "x"], haside, ?_, ?_⟩
    · show ["d", "x"] <+: (Path.ofString "d/x").names
      rw [hother]
    · rw [hnotes]
      decide

/-- The file that is shown must not be at a place that saving touches: a path that leads through a
directory that saving makes, and back again, leads to a file in one of the sessions only. -/
theorem show_through_new_directory :
    let path := "d/c.json"
    let file := "d/../notes"
    let t : Terminal := {
      input := [.bytes "new\nTODO\nsave\nn\nshow\n".toByteArray.data.toList]
      machine := { tree := ⟨[(["notes"], .file "TODO x".toByteArray)]⟩ } }
    ConfigFile.Serves path t.machine.tree {} ∧ ({} : Config).Exact ∧ (∀ c, .change c ∉ t.input) ∧
      (∀ (u : Tree) q e, u.locate (Path.ofString file) = .ok (q, e) → q = ["notes"]) ∧
      (playAll ⟨Regex.engine, file, .configFile path⟩ () t).terminal.output ≠
        (playAll ⟨Regex.engine, file, .memory⟩ [] t).terminal.output := by
  intro path file t
  have hpath : Path.ofString path = ⟨false, ["d", "c.json"], .name⟩ := by decide +kernel
  have hfile : Path.ofString file = ⟨false, ["d", "..", "notes"], .name⟩ := by decide +kernel
  have hserves : ConfigFile.Serves path t.machine.tree {} := by
    constructor
    · rw [ConfigFile.given, hpath]
      rfl
    · rw [hpath]
      exact fun _ => rfl
  have hnew := SessionCommand.parse_name .new
  have hsave := SessionCommand.parse_name .save
  have hinFile : Plays (inFile Regex.engine file path) () t (start ()) t := .first
  have hinFile := hinFile.command hnew (by decide +kernel)
  have hinFile := (hinFile.next (by decide +kernel)).command hsave (by decide +kernel)
  have hinFile := (hinFile.next (by decide +kernel)).command SessionCommand.parse_show (by decide +kernel)
  have hinMemory : Plays (inMemory Regex.engine file) [] t (start []) t := .first
  have hinMemory := hinMemory.command hnew (by decide +kernel)
  have hinMemory := (hinMemory.next (by decide +kernel)).command hsave (by decide +kernel)
  have hinMemory := (hinMemory.next (by decide +kernel)).command SessionCommand.parse_show (by decide +kernel)
  refine ⟨hserves, by simp [Config.Exact], by simp [t], fun u q e hlocate => ?_, ?_⟩
  · have hwalk : u.walk [] (["d"] ++ ["..", "notes"]) = .ok (q, e) := by
      simpa [hfile] using Tree.walk_of_locate hlocate
    obtain ⟨d, hd, hrest⟩ := Tree.of_walk_append (by simp) hwalk
    obtain rfl : d = ["d"] := Tree.names_eq_of_walk (by decide) (by decide) hd
    have hlast : u.walk [] ["notes"] = .ok (q, e) := hrest
    exact Tree.names_eq_of_walk (by decide) (by decide) hlast
  · show (playAll (inFile Regex.engine file path) () t).terminal.output ≠
      (playAll (inMemory Regex.engine file) [] t).terminal.output
    rw [hinFile.play_eq, hinMemory.play_eq, play_eq, play_eq]
    decide +kernel

end Session

end AnchorOutline
