import AnchorOutline.Proofs.Active.Answers
import AnchorOutline.Proofs.Sets.Upsert
import AnchorOutline.Proofs.Session.Stores

/-!
# Saving while others edit the config file

Others may replace or delete the config file while a session waits for a line. The session reads the file
once more when it knows the name to save under, and puts the active patterns into what the file gives
then, so no edit is lost.

* `Session.run_advance` : how far a dialogue comes, and what its store does on the way;
* `Session.Ongoing` : the dialogue that waits at a prompt is what is left of an operation;
* `Session.Plays.ongoing` : this is so after each step of a session;
* `Session.save_keeps_edits` : the config file after a save.
-/

namespace AnchorOutline.Session

variable {σ α : Type} {setup : SessionSetup σ} {s : Session σ} {c : Controller}

/-! ## Dialogues up to a prompt -/

/-- What is left of a dialogue. -/
def Progress.rest : Progress σ α → Dialogue α
  | .finished result _ => .done result
  | .waiting p next _ => .ask (.prompt p) next

def Progress.store : Progress σ α → σ
  | .finished _ store | .waiting _ _ store => store

/-- What is left of a dialogue is reached by exchanges in which the store answers. -/
theorem run_advance (store : SetStore σ) (d : Dialogue α) (state : σ) (m : Machine) :
    let r := m.run (advance store d state)
    ∃ t, d.Leads t r.1.rest ∧ store.Answers state m.tree t r.1.store r.2.tree := by
  induction d generalizing state m with
  | done result => exact ⟨[], .here _, rfl, rfl⟩
  | ask q next ih =>
    cases q with
    | prompt p => exact ⟨[], .here _, rfl, rfl⟩
    | getSets =>
      rw [advance, Machine.run_bind]
      obtain ⟨t, hleads, hanswers⟩ := ih (m.run (store.get state)).1.1
        (m.run (store.get state)).1.2 (m.run (store.get state)).2
      exact ⟨_, .ask hleads, m, rfl, rfl, hanswers⟩
    | putSets sets =>
      rw [advance, Machine.run_bind]
      obtain ⟨t, hleads, hanswers⟩ := ih (m.run (store.put sets state)).1.1
        (m.run (store.put sets state)).1.2 (m.run (store.put sets state)).2
      exact ⟨_, .ask hleads, m, rfl, rfl, hanswers⟩
    | note n =>
      rw [advance, Machine.run_bind]
      obtain ⟨t, hleads, hanswers⟩ := ih () state (m.run (takeNote n)).2
      rw [Machine.tree_run_of_reads (reads_takeNote (fun _ => True) n)] at hanswers
      exact ⟨_, .ask hleads, hanswers⟩
    | check holds =>
      obtain ⟨t, hleads, hanswers⟩ := ih () state m
      exact ⟨_, .ask hleads, hanswers⟩

/-! ## Operations that wait -/

/-- Where a session waits at a prompt, it is in the middle of the operation of a command. -/
def Ongoing (s : Session σ) : Prop :=
  ∀ command p next, s.phase = .prompt command p next →
    ∃ t, (command.operation s.controller).Leads t (.ask (.prompt p) next)

theorem ongoing_of_command (hphase : s.phase = .command) : s.Ongoing := by
  intro command p next hprompt
  rw [hphase] at hprompt
  cases hprompt

theorem ongoing_proceed (command : SetCommand) {t : List Talk} {operation : Operation}
    (h : (command.operation s.controller).Leads t operation) (m : Machine) :
    (m.run (proceed setup s command operation)).1.session.Ongoing := by
  rw [proceed, Machine.run_bind]
  obtain ⟨u, hleads, -⟩ := run_advance setup.store operation s.store m
  cases hprogress : (m.run (advance setup.store operation s.store)).1 with
  | finished result store => exact ongoing_of_command rfl
  | waiting p next store =>
    rw [hprogress] at hleads
    intro command' p' next' hphase
    cases hphase
    exact ⟨t ++ u, h.trans hleads⟩

theorem ongoing_close (hphase : s.phase = .command) (m : Machine) :
    (m.run (close setup s)).1.session.Ongoing := by
  rw [close, Machine.run_bind]
  cases (m.run (advance setup.store s.controller.shutdown s.store)).1 with
  | finished registry store => exact ongoing_of_command hphase
  | waiting p next store => exact ongoing_of_command hphase

theorem ongoing_obey (hphase : s.phase = .command) (command : SessionCommand) (m : Machine) :
    (m.run (obey setup s command)).1.session.Ongoing := by
  cases command with
  | onSet command => exact ongoing_proceed command (.here _) m
  | «show» =>
    rw [obey, Machine.run_bind]
    exact ongoing_of_command rfl
  | quit => exact ongoing_close hphase m
  | _ => exact ongoing_of_command rfl

theorem ongoing_feed (h : s.Ongoing) (line : Terminal.Line) (m : Machine) :
    (m.run (s.feed setup line)).1.session.Ongoing := by
  cases hphase : s.phase with
  | command =>
    cases line with
    | text line =>
      simp only [feed, hphase]
      exact ongoing_obey hphase _ m
    | «over» =>
      simp only [feed, hphase]
      exact ongoing_close hphase m
    | failed e =>
      simp only [feed, hphase]
      exact ongoing_of_command hphase
  | prompt command p next =>
    obtain ⟨t, hleads⟩ := h command p next hphase
    have hanswered (reply : Except HostFailure Reply) :
        (command.operation s.controller).Leads (t ++ [Talk.prompt p reply]) (next reply) :=
      hleads.trans (.ask (.here _))
    cases line with
    | «over» =>
      simp only [feed, hphase]
      exact ongoing_proceed command (hanswered _) m
    | failed e =>
      simp only [feed, hphase]
      exact ongoing_proceed command (hanswered _) m
    | text line =>
      simp only [feed, hphase]
      split
      · exact ongoing_proceed command (hanswered _) m
      · exact h

theorem Plays.ongoing {store : σ} {t t' : Terminal} {step : Step σ} (h : Plays setup store t step t') :
    step.session.Ongoing := by
  induction h with
  | first => exact ongoing_of_command rfl
  | next _ _ ih => exact ongoing_feed ih _ _

/-! ## Saving -/

/-- A question prompts for the name to save under if it prompts at all. -/
def OnlyName (q : Question) : Prop := ∀ p, q = .prompt p → p = namePrompt

theorem asksOnly_store (c : Controller) (id : String) : (c.store id).AsksOnly OnlyName := by
  refine ⟨nofun, fun given => ?_⟩
  rcases given with e | sets
  · trivial
  · refine ⟨nofun, fun written => ?_⟩
    rcases written with e | written
    · trivial
    · exact ⟨nofun, fun _ => trivial⟩

theorem asksOnly_save (c : Controller) : c.save.AsksOnly OnlyName := by
  have hleave (outcome : Outcome) (reason : String) : (c.leave outcome reason).AsksOnly OnlyName :=
    ⟨nofun, fun _ => trivial⟩
  unfold Controller.save
  split
  next => exact hleave _ _
  next =>
    refine ⟨fun p hp => by cases hp; rfl, fun reply => ?_⟩
    rcases reply with e | (answer | _)
    · trivial
    · simp only [pure, Interaction.bind]
      split
      · exact hleave _ _
      · exact asksOnly_store c _
    · exact hleave _ _

/-- Only a save that is applied says so. -/
theorem applied_of_report {current : List String} {result : Except OperationError Outcome}
    (h : SetCommand.save.report current result = "Saved.") : result = .ok .applied := by
  cases result with
  | error e =>
    have hfirst := congrArg (fun text => text.toList.head?) h
    have hletter : (reportError e.message).toList.head? = some 'E' := by
      rw [reportError, String.toList_append, List.head?_append]
      rfl
    cases hletter.symm.trans hfirst
  | ok outcome =>
    cases outcome with
    | applied => rfl
    | cancelled =>
      have hne : "Cancelled." ≠ "Saved." := by decide
      exact absurd h hne
    | skipped =>
      have hne : "Nothing to do." ≠ "Saved." := by decide
      exact absurd h hne

theorem eq_namePrompt (h : s.Ongoing) {p : Prompt} {next : Except HostFailure Reply → Operation}
    (hphase : s.phase = .prompt .save p next) : p = namePrompt := by
  obtain ⟨t, hleads⟩ := h .save p next hphase
  exact ((asksOnly_save s.controller).after hleads).1 p rfl

/-- Where a session has saved under the name that it was told, its store was updated after that. -/
theorem updates_feed (h : s.Ongoing) {p : Prompt} {next : Except HostFailure Reply → Operation}
    (hphase : s.phase = .prompt .save p next) {name : String} {m : Machine}
    (hsaved : (m.run (s.feed setup (.text name))).1.output = "Saved.\n" ++ Terminal.commandPrompt) :
    setup.store.Updates (PatternSet.upsert · (.ofPatterns name s.controller.current)) s.store m.tree
      (m.run (s.feed setup (.text name))).1.session.store (m.run (s.feed setup (.text name))).2.tree := by
  obtain rfl := eq_namePrompt h hphase
  obtain ⟨t, hbefore⟩ := h .save _ next hphase
  let reply : Reply := if name = cancelMark then .cancelled else .submitted name
  have hfeed : s.feed setup (.text name) = proceed setup s .save (next (.ok reply)) := by
    simp only [feed, hphase]
    rfl
  obtain ⟨u, hafter, hanswers⟩ := run_advance setup.store (next (.ok reply)) s.store m
  rw [hfeed, proceed, Machine.run_bind] at hsaved ⊢
  generalize m.run (advance setup.store (next (.ok reply)) s.store) = r at hsaved hafter hanswers ⊢
  obtain ⟨progress, m'⟩ := r
  have hwhole := hbefore.trans (.ask hafter)
  cases progress with
  | waiting p' next' store =>
    have hprompt : p' = namePrompt := ((asksOnly_save s.controller).after hwhole).1 p' rfl
    subst hprompt
    have hne : namePrompt.preamble ++ namePrompt.question ≠ "Saved.\n" ++ Terminal.commandPrompt := by
      decide
    exact absurd hsaved hne
  | finished result store =>
    obtain ⟨result, c'⟩ := result
    have hline : SetCommand.save.report c'.current result ++ "\n" = "Saved." ++ "\n" :=
      (String.append_left_inj _).mp hsaved
    have hreport := (String.append_left_inj _).mp hline
    obtain ⟨hsaves, -⟩ := (s.controller.ensures_saves .save).after hwhole rfl (applied_of_report hreport)
    rw [List.append_nil] at hsaves
    obtain ⟨rfl, id, hreply⟩ := hsaves.eq_nil_of_prompt
    obtain rfl : name = id := by
      simp only [reply, Except.ok.injEq] at hreply
      split at hreply
      · cases hreply
      · exact Reply.submitted.inj hreply
    rw [hreply] at hsaves
    exact hsaves.updates hanswers

/-! ## Whole sessions -/

theorem turn_eq_perform {step : Step σ} {t : Terminal} {line : Terminal.Line}
    (hline : (t.print step.output).2.nextLine.1 = line) :
    turn setup step t =
      (t.print step.output).2.nextLine.2.perform (step.session.feed setup line) := by
  rw [← hline]
  rfl

/-- Where a session has saved under the name that it was told, the config file has what it gave when the
name was read, but for the sets: the active patterns are put into them under the name. This is so
whatever was done before, by the session and by others. -/
theorem save_keeps_edits (engine : Regex.Engine) (file path : String) {t t' : Terminal}
    {step : Step Unit} (hplays : Plays (inFile engine file path) () t step t') {p : Prompt}
    {next : Except HostFailure Reply → Operation}
    (hphase : step.session.phase = .prompt .save p next) {name : String}
    (hname : (t'.print step.output).2.nextLine.1 = .text name)
    (hsaved : (turn (inFile engine file path) step t').1.output =
      "Saved.\n" ++ Terminal.commandPrompt) :
    let before := (t'.print step.output).2.nextLine.2.machine.tree
    let after := (turn (inFile engine file path) step t').2.machine.tree
    ∃ c, ConfigFile.given path before = .ok c ∧
      let c' : Config := { c with
        sets := PatternSet.placed c.sets (.ofPatterns name step.session.controller.current) }
      after.read (Path.ofString path) = .ok c'.text.toUTF8 ∧
        (c.Exact → ConfigFile.given path after = .ok c') := by
  intro before after
  have hturn : turn (inFile engine file path) step t' = _ := turn_eq_perform hname
  rw [hturn] at hsaved
  obtain ⟨c, hgiven, hread⟩ := (updates_feed hplays.ongoing hphase hsaved).given
  rw [PatternSet.upsert_eq_placed] at hread
  have hafter : after = ((t'.print step.output).2.nextLine.2.perform
      (step.session.feed (inFile engine file path) (.text name))).2.machine.tree := by
    rw [← hturn]
  rw [hafter]
  refine ⟨c, hgiven, hread, fun hexact => ?_⟩
  exact ConfigFile.given_of_read hread ((ConfigFile.plain_of_given hgiven hexact).withSets _)

/-- With a file that can be read and replaced a session prints for a line what one with the same sets in
memory does. -/
theorem output_feed_eq {engine : Regex.Engine} {file path : String} {m : Machine} {config : Config}
    (hserves : ConfigFile.Serves path m.tree config) (hexact : config.Exact)
    (hfile : ∀ q ∈ (Path.ofString file).places, ¬ ConfigFile.Place (Path.ofString path) q)
    (s : Session Unit) (line : Terminal.Line) :
    (m.run (s.feed (inFile engine file path) line)).1.output =
      (m.run ((s.withStore config.sets).feed (inMemory engine file) line)).1.output := by
  have hmirrors : Mirrors path file m.tree m.tree m.tree config.sets := .start hserves hexact
  have hshows : ConfigFile.Shows path file m.tree := .inl fun q hq hplace => absurd hplace (hfile q hq)
  obtain ⟨sets, hstep, -⟩ : Matches path file m.tree Step.withStore m m
      (s.feed (inFile engine file path) line)
      ((s.withStore config.sets).feed (inMemory engine file) line) :=
    matches_feed hmirrors hshows s line
  rw [hstep]
  rfl

/-- The command whose dialogue waits for an answer. -/
def awaiting? : Phase → Option SetCommand
  | .command => none
  | .prompt command _ _ => some command

theorem eq_prompt_of_awaiting? {phase : Phase} {command : SetCommand}
    (h : awaiting? phase = some command) : ∃ p next, phase = .prompt command p next := by
  cases phase with
  | command => cases h
  | prompt command' p next =>
    cases h
    exact ⟨p, next, rfl⟩

/-- The patterns were saved in a new file under another name before. While the name is awaited someone
replaces the file, and what is saved goes into the new one. -/
theorem save_after_replacement :
    let c : Config := {
      sets := [⟨"n", []⟩, ⟨"z", []⟩], logFilter := some "warn", extra := [("theme", .string "dark")] }
    let t : Terminal := {
      input := [.bytes "new\nTODO\nsave\na\nsave\n".toByteArray.data.toList,
        .change (.write (Path.ofString "c.json") c.text.toUTF8),
        .bytes "n\n".toByteArray.data.toList] }
    let setup := inFile Regex.engine "notes" "c.json"
    ∃ step t', Plays setup () t step t' ∧ (t'.print step.output).2.nextLine.1 = .text "n" ∧
      (turn setup step t').1.output = "Saved.\n" ++ Terminal.commandPrompt ∧
      ConfigFile.given "c.json" (turn setup step t').2.machine.tree =
        .ok { c with sets := [.ofPatterns "n" ["TODO"], ⟨"z", []⟩] } := by
  intro c t setup
  have hsave := SessionCommand.parse_name .save
  have hexact : c.Exact := by simp [c, Config.Exact, Json.Exact.string]
  have hplain : c.Plain := ⟨List.pairwise_singleton _ _, by decide +kernel, by simp [c, Json.Plain]⟩
  have hpath : Path.ofString "c.json" = ⟨false, ["c.json"], .name⟩ := by decide +kernel
  have hnotes : ∀ q ∈ (Path.ofString "notes").places, ¬ ConfigFile.Place (Path.ofString "c.json") q := by
    unfold ConfigFile.Place
    decide +kernel
  -- The kernel does not read the new file, so the answer of a session with its sets in memory is taken.
  obtain ⟨step, t', hplays, hphase, hname, hcurrent, hbefore, hmemory⟩ : ∃ step t',
      Plays setup () t step t' ∧
      awaiting? step.session.phase = some .save ∧
      (t'.print step.output).2.nextLine.1 = .text "n" ∧
      step.session.controller.current = ["TODO"] ∧
      (t'.print step.output).2.nextLine.2.machine.tree = ⟨[(["c.json"], .file c.text.toUTF8)]⟩ ∧
      ((t'.print step.output).2.nextLine.2.machine.run
        ((step.session.withStore c.sets).feed (inMemory Regex.engine "notes") (.text "n"))).1.output =
          "Saved.\n" ++ Terminal.commandPrompt := by
    have h : Plays setup () t (start ()) t := .first
    have h := h.command (SessionCommand.parse_name .new) (by decide +kernel)
    have h := (h.next (by decide +kernel)).command hsave (by decide +kernel)
    have h := (h.next (by decide +kernel)).command hsave (by decide +kernel)
    exact ⟨_, _, h, by decide +kernel, by decide +kernel, by decide +kernel, by decide +kernel,
      by decide +kernel⟩
  obtain ⟨p, next, hphase⟩ := eq_prompt_of_awaiting? hphase
  have hserves : ConfigFile.Serves "c.json" (t'.print step.output).2.nextLine.2.machine.tree c := by
    rw [hbefore]
    refine ⟨ConfigFile.given_of_read ?_ hplain, ?_⟩
    · rw [hpath]
      rfl
    · rw [hpath]
      exact fun _ => rfl
  have hsaved : (turn setup step t').1.output = "Saved.\n" ++ Terminal.commandPrompt := by
    rw [turn_eq_perform hname]
    exact (output_feed_eq hserves hexact hnotes step.session (.text "n")).trans hmemory
  obtain ⟨c', hgiven, -, hafter⟩ :=
    save_keeps_edits Regex.engine "notes" "c.json" hplays hphase hname hsaved
  obtain rfl : c = c' := Except.ok.inj (hserves.given.symm.trans hgiven)
  refine ⟨step, t', hplays, hname, hsaved, ?_⟩
  rw [hafter hexact, hcurrent]
  rfl

end AnchorOutline.Session
