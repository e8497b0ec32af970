import AnchorOutline.Proofs.Active.Nonblank
import AnchorOutline.Proofs.Session.Confined
import AnchorOutline.Proofs.Session.Edits
import AnchorOutline.Proofs.Session.Show
import AnchorOutline.Proofs.Terminal.Choosing

/-!
# Fixing a pattern by its number

A pattern is chosen by the number that is printed beside it, and its replacement is typed. Of equal
patterns it is the first one that is replaced or taken away, whichever of them was chosen.

* `Controller.amended_split` : what becomes of the list;
* `Session.Plays.typed` : the step of a session for a line that is typed;
* `Session.run_proceed_amend` : the step that ends fixing;
* `Session.fix_amends_first` : all steps of a session that fixes a pattern.
-/

namespace AnchorOutline

/-! ## Prompts -/

theorem preamble_choice {options : List String} {option : String} {i : Nat}
    (h : options[i]? = some option) (placeholder : Option String) :
    ∃ above below, (Prompt.choice options placeholder).preamble =
      above ++ s!"  {i + 1}) {option}\n" ++ below := by
  have hmem : (option, i + 1) ∈ options.zipIdx 1 := by
    rw [Nat.add_comm]
    exact List.mk_add_mem_zipIdx_iff_getElem?.mpr h
  obtain ⟨above, below, hsplit⟩ := List.append_of_mem hmem
  rw [Prompt.preamble, hsplit, List.map_append, List.map_cons, String.join_append, String.join_cons,
    ← String.append_assoc]
  exact ⟨_, _, rfl⟩

/-- The prompt for the pattern to fix. -/
def fixPrompt (current : List String) : Prompt := .choice current (some "Pattern to fix")

def replacementPrompt (target : String) : Prompt :=
  .text (some "Replacement (empty removes)") (some target)

theorem reply_number {current : List String} {i : Nat} {target : String}
    (htarget : current[i]? = some target) (hsize : i + 1 < 2 ^ 64) :
    (fixPrompt current).reply? (.text (toString (i + 1))) = some (.ok (.submitted target)) := by
  rw [Prompt.reply?, fixPrompt, Prompt.interpret_choice, answerTo?_number htarget hsize
    (Text.trim_toString _)]

theorem reply_replacement (target : String) {replacement : String} (hmark : replacement ≠ ":q") :
    (replacementPrompt target).reply? (.text replacement) = some (.ok (.submitted replacement)) := by
  have hinterpret : (replacementPrompt target).interpret replacement =
      .accepted (.submitted replacement) := congrArg _ (if_neg hmark)
  rw [Prompt.reply?, hinterpret]

/-! ## Amending -/

namespace Controller

variable {c : Controller} {target replacement : String}

/-- Of equal patterns the first one is amended. -/
theorem amended_split {before after : List String} (hfirst : target ∉ before) (replacement : String) :
    (if replacement = "" then (before ++ target :: after).erase target
      else (before ++ target :: after).replace target replacement) =
    if replacement = "" then before ++ after else before ++ replacement :: after := by
  rw [List.erase_append_right _ hfirst, List.erase_cons_head, List.replace_append_right hfirst,
    List.replace_cons, beq_self_eq_true]

/-- Fixing prompts for a pattern, then for its replacement, and amends. -/
theorem fix_asks (hmem : target ∈ c.current) (hne : target ≠ "") (replacement : String) :
    ∃ chosen replaced : Except HostFailure Reply → Operation,
      c.fix = .ask (.prompt (fixPrompt c.current)) chosen ∧
      chosen (.ok (.submitted target)) = .ask (.prompt (replacementPrompt target)) replaced ∧
      replaced (.ok (.submitted replacement)) = c.amend target replacement := by
  obtain ⟨chosen, hfix, hrest⟩ := (leads_amend hmem hne replacement).exists_ask
  obtain ⟨replaced, hchosen, hdone⟩ := hrest.exists_ask
  exact ⟨chosen, replaced, hfix, hchosen, hdone.eq_of_nil⟩

theorem tells_amend (c : Controller) (target replacement : String) :
    (c.amend target replacement).Ensures fun t _ => Tells t := by
  unfold amend
  split
  · rw [Interaction.ensures_bind, ensures_remark, ensures_apply]
    exact (tells_activate _).mono fun t _ ht => tells_log.mpr ht
  · rw [Interaction.ensures_bind, ensures_remark, ensures_apply]
    exact (tells_activate _).mono fun t _ ht => tells_log.mpr ht

theorem asksOnly_of_tells {operation : Operation} (h : operation.Ensures fun t _ => Tells t) :
    operation.AsksOnly (·.isTelling = true) :=
  (h.mono fun t _ ht e he => by
    have htelling := ht e he
    obtain ⟨q, answer⟩ := e
    cases q <;> exact htelling).asksOnly

theorem asksOnly_amend (c : Controller) (target replacement : String) :
    (c.amend target replacement).AsksOnly (·.isTelling = true) :=
  asksOnly_of_tells (tells_amend c target replacement)

end Controller

theorem Phase.eq_command {phase : Phase} (h : phase.isCommand = true) : phase = .command := by
  cases phase with
  | command => rfl
  | prompt command p next => cases h

namespace Session

open Terminal

variable {σ : Type} {setup : SessionSetup σ} {s : Session σ} {store : σ} {t t' : Terminal}
  {step : Step σ} {command : SetCommand} {p : Prompt} {next : Except HostFailure Reply → Operation}
  {operation : Operation}

/-! ## Steps -/

theorem Plays.typed (h : Plays setup store t step t') (hending : step.ending = none)
    (hfits : t'.output.Fits step.output) {line : String} (hfeed : '\n' ∉ line.toList)
    (hreturn : line.toList.getLast? ≠ some '\r') {more : List UInt8}
    (hinput : ahead t'.input = encode line.toList ++ lineFeed :: more) :
    ∃ (m : Machine) (t'' : Terminal),
      Plays setup store t (m.run (step.session.feed setup (.text line))).1 t'' ∧
      t''.output = t'.output.append step.output ∧ ahead t''.input = more := by
  obtain ⟨hline, hmore⟩ := readLine_of_feed hfeed hinput
  rw [Text.stripReturn, if_neg hreturn, String.ofList_toList] at hline
  have hprint := print_of_fits hfits
  have hnext : (t'.print step.output).2.nextLine.1 = .text line := by
    rw [hprint]
    exact hline
  have hread : (t'.print step.output).2.nextLine.1 ≠ .over := by simp [hnext]
  have hgoesOn : GoesOn step t' := ⟨by rw [hprint], hending, hread⟩
  have hplays := h.next hgoesOn
  rw [turn_eq_perform hnext, hprint] at hplays
  exact ⟨_, _, hplays, rfl, hmore⟩

theorem Plays.typed_pure (h : Plays setup store t step t') (hending : step.ending = none)
    (hfits : t'.output.Fits step.output) {line : String} (hfeed : '\n' ∉ line.toList)
    (hreturn : line.toList.getLast? ≠ some '\r') {more : List UInt8}
    (hinput : ahead t'.input = encode line.toList ++ lineFeed :: more) {after : Step σ}
    (hafter : step.session.feed setup (.text line) = pure after) :
    ∃ t'', Plays setup store t after t'' ∧ t''.output = t'.output.append step.output ∧
      ahead t''.input = more := by
  obtain ⟨m, t'', hplays, houtput, hmore⟩ := h.typed hending hfits hfeed hreturn hinput
  rw [hafter] at hplays
  exact ⟨t'', hplays, houtput, hmore⟩

/-- A session that waits at a prompt of a command. -/
def atPrompt (s : Session σ) (command : SetCommand) (p : Prompt)
    (next : Except HostFailure Reply → Operation) : Step σ :=
  { output := p.preamble ++ p.question, session := { s with phase := .prompt command p next } }

theorem proceed_of_prompt (s : Session σ) (command : SetCommand)
    (h : operation = .ask (.prompt p) next) :
    proceed setup s command operation = pure (s.atPrompt command p next) := by
  subst h
  rfl

/-- Amending is done at once, and then the new patterns are listed. -/
theorem run_proceed_amend (setup : SessionSetup σ) (s : Session σ) (c : Controller)
    (target replacement : String) (m : Machine) :
    ∃ c' left talk, (c.amend target replacement).Leads talk (.done (.ok .applied, c')) ∧
      (c'.current = if replacement = "" then c.current.erase target
        else c.current.replace target replacement) ∧
      (m.run (proceed setup s .fix (c.amend target replacement))).1 =
        said ⟨c', left, .command⟩ (describePatterns c'.current) := by
  have hasks := Controller.asksOnly_amend c target replacement
  obtain ⟨⟨result, c'⟩, hfinished⟩ := finished_of_asksOnly setup.store hasks s.store m
  obtain ⟨talk, hleads, -⟩ := run_advance setup.store (c.amend target replacement) s.store m
  rw [hfinished] at hleads
  obtain ⟨happlied, hcurrent⟩ :=
    (Controller.ensures_current_amend c target replacement).of_leads hleads
  obtain rfl : result = .ok .applied := happlied
  refine ⟨c', s.store, talk, hleads, hcurrent, ?_⟩
  rw [proceed, Machine.run_bind, hfinished]
  rfl

theorem encode_typed (number replacement : String) (more : List UInt8) :
    encode ("fix\n" ++ number ++ "\n" ++ replacement ++ "\n").toList ++ more =
      encode "fix".toList ++ lineFeed ::
        (encode number.toList ++ lineFeed :: (encode replacement.toList ++ lineFeed :: more)) := by
  simp only [String.toList_append, encode_append, List.append_assoc]
  rfl

/-- What is printed while a pattern is fixed, the prompt for a command included. -/
def fixShown (step : Step σ) (target : String) : String :=
  step.output ++ ((fixPrompt step.session.controller.current).preamble ++
    (fixPrompt step.session.controller.current).question) ++ (replacementPrompt target).question

/-- A command is awaited, and what comes in next is the command to fix a pattern, the number beside the
pattern and its replacement, each on a line of its own. Numbers have 64 bits. -/
structure FixTyped (step : Step σ) (t : Terminal) (i : Nat) (target replacement : String)
    (more : List UInt8) : Prop where
  ending : step.ending = none
  phase : step.session.phase = .command
  target_at : step.session.controller.current[i]? = some target
  target_ne : target ≠ ""
  number : i + 1 < 2 ^ 64
  not_mark : replacement ≠ ":q"
  no_feed : '\n' ∉ replacement.toList
  no_return : replacement.toList.getLast? ≠ some '\r'
  input : ahead t.input =
    encode ("fix\n" ++ toString (i + 1) ++ "\n" ++ replacement ++ "\n").toList ++ more
  fits : t.output.Fits (fixShown step target)

variable {i : Nat} {target replacement : String} {more : List UInt8}

theorem FixTyped.mem (h : FixTyped step t i target replacement more) :
    target ∈ step.session.controller.current := List.mem_of_getElem? h.target_at

theorem Plays.fix (hplays : Plays setup store t step t')
    (h : FixTyped step t' i target replacement more) :
    ∃ c left t'',
      (∃ talk, step.session.controller.fix.Leads talk (.done (.ok .applied, c))) ∧
      (c.current = if replacement = "" then step.session.controller.current.erase target
        else step.session.controller.current.replace target replacement) ∧
      Plays setup store t (said ⟨c, left, .command⟩ (describePatterns c.current)) t'' ∧
      t''.output.text = t'.output.text ++ fixShown step target ∧ ahead t''.input = more := by
  obtain ⟨chosen, replaced, hfix, hchosen, hreplaced⟩ :=
    Controller.fix_asks h.mem h.target_ne replacement
  obtain ⟨hshown, hfits₃⟩ := Output.fits_append.mp h.fits
  obtain ⟨hfits₁, hfits₂⟩ := Output.fits_append.mp hshown
  have hinput := h.input
  rw [encode_typed] at hinput
  let asked := step.session.atPrompt .fix (fixPrompt step.session.controller.current) chosen
  have hparse : SessionCommand.parse "fix" = .onSet .fix := SessionCommand.parse_name .fix
  have hcommand : step.session.feed setup (.text "fix") = pure asked := by
    simp only [feed, h.phase, hparse, obey]
    exact proceed_of_prompt _ _ hfix
  obtain ⟨t₁, hplays₁, houtput₁, hmore₁⟩ :=
    hplays.typed_pure h.ending hfits₁ (by decide) (by decide) hinput hcommand
  let told := asked.session.atPrompt .fix (replacementPrompt target) replaced
  have hnumber : asked.session.feed setup (.text (toString (i + 1))) = pure told := by
    rw [feed_of_reply rfl (reply_number h.target_at h.number)]
    exact proceed_of_prompt _ _ hchosen
  have hdigits : ∀ c ∈ (toString (i + 1)).toList, c.isDigit = true := fun c =>
    Text.isDigit_of_mem_toString
  have hfits₂ : t₁.output.Fits asked.output := by rwa [houtput₁]
  obtain ⟨t₂, hplays₂, houtput₂, hmore₂⟩ := hplays₁.typed_pure rfl hfits₂
    (fun hmem => absurd (hdigits _ hmem) (by decide))
    (fun hlast => absurd (hdigits _ (List.mem_of_getLast? hlast)) (by decide)) hmore₁ hnumber
  have hoverall : t₂.output = t'.output.append (step.output ++ asked.output) := by
    rw [houtput₂, houtput₁, Output.append_append]
  have hfits₃ : t₂.output.Fits told.output := by rwa [hoverall]
  obtain ⟨m, t₃, hplays₃, houtput₃, hmore₃⟩ := hplays₂.typed rfl hfits₃ h.no_feed h.no_return hmore₂
  obtain ⟨c, left, talk, hdone, hcurrent, hstep⟩ :=
    run_proceed_amend setup told.session step.session.controller target replacement m
  rw [feed_of_reply rfl (reply_replacement target h.not_mark), hreplaced, hstep] at hplays₃
  refine ⟨c, left, t₃, ⟨_, (Controller.leads_amend h.mem h.target_ne replacement).trans hdone⟩, hcurrent,
    hplays₃, ?_, hmore₃⟩
  rw [houtput₃, hoverall, Output.append_append]
  rfl

/-! ## Lists that are shown -/

theorem output_list (setup : SessionSetup σ) (step : Step σ) (t : Terminal) :
    (commandTurn setup step t .list).1.output =
      describePatterns step.session.controller.current ++ "\n" ++ commandPrompt := rfl

theorem output_show (hs : SoundController step.session.controller) {d : Document}
    (hread : ((t.print step.output).2.nextLine.2.machine.run (DocumentFile.read setup.file)).1 = .ok d) :
    (commandTurn setup step t .show).1.output =
      shown (renderOutline setup.engine step.session.controller.current d false) ++ commandPrompt := by
  rw [← join_showLines hs hread, commandTurn, perform, obey, Machine.run_bind]
  rfl

/-- A pattern is chosen by the number beside it and its replacement is typed. Then the first pattern that
equals it is replaced, or taken away where nothing is typed; the others stay as they are, and this is
what the session lists and shows from then on. -/
theorem fix_amends_first (hplays : Plays setup store t step t')
    (h : FixTyped step t' i target replacement more) :
    (∃ above below, (fixPrompt step.session.controller.current).preamble =
      above ++ s!"  {i + 1}) {target}\n" ++ below) ∧
    ∃ next t'', Plays setup store t next t'' ∧ next.ending = none ∧ next.session.phase = .command ∧
      (∃ talk, step.session.controller.fix.Leads talk
        (.done (.ok .applied, next.session.controller))) ∧
      (∀ before after, step.session.controller.current = before ++ target :: after →
        target ∉ before → next.session.controller.current =
          if replacement = "" then before ++ after else before ++ replacement :: after) ∧
      next.output = describePatterns next.session.controller.current ++ "\n" ++ commandPrompt ∧
      t''.output.text = t'.output.text ++ fixShown step target ∧ ahead t''.input = more ∧
      (commandTurn setup next t'' .list).1.output =
        describePatterns next.session.controller.current ++ "\n" ++ commandPrompt ∧
      ∀ d, ((t''.print next.output).2.nextLine.2.machine.run (DocumentFile.read setup.file)).1 = .ok d →
        (commandTurn setup next t'' .show).1.output =
          shown (renderOutline setup.engine next.session.controller.current d false) ++
            commandPrompt := by
  obtain ⟨c, left, t'', hdone, hcurrent, hnext, htext, hmore⟩ := hplays.fix h
  refine ⟨preamble_choice h.target_at _, _, t'', hnext, rfl, rfl, hdone, ?_, rfl, htext, hmore,
    output_list setup _ t'', fun d hread => output_show (hnext.sound rfl).controller hread⟩
  intro before after hsplit hfirst
  rw [← Controller.amended_split hfirst, ← hsplit]
  exact hcurrent

/-- The second of two equal patterns is chosen, and the first one is replaced. -/
theorem fix_amends_first_of_two :
    let setup : SessionSetup (List PatternSet) := ⟨Regex.engine, "notes", .memory⟩
    let t : Terminal := {
      input := [.bytes (encode "new\nTODO\nadd\nTODO\nfix\n2\nFIXME\nlist".toList)] }
    ∃ step t', Plays setup [] t step t' ∧
      FixTyped step t' 1 "TODO" "FIXME" (encode "list".toList) ∧
      step.session.controller.current = ["TODO", "TODO"] ∧
      ∃ next t'', Plays setup [] t next t'' ∧
        next.output = "Patterns:\n  FIXME\n  TODO\n> " ∧ ahead t''.input = encode "list".toList := by
  intro setup t
  obtain ⟨step, t', hplays, htyped, hcurrent⟩ : ∃ step t', Plays setup [] t step t' ∧
      FixTyped step t' 1 "TODO" "FIXME" (encode "list".toList) ∧
      step.session.controller.current = ["TODO", "TODO"] := by
    have h : Plays setup [] t (start []) t := .first
    have h := h.command (SessionCommand.parse_name .new) (by decide +kernel)
    have h := (h.next (by decide +kernel)).command (SessionCommand.parse_name .add) (by decide +kernel)
    have h := h.next (by decide +kernel)
    refine ⟨_, _, h, ?_, by decide +kernel⟩
    exact {
      ending := by decide +kernel
      phase := Phase.eq_command (by decide +kernel)
      target_at := by decide +kernel
      target_ne := by decide
      number := by decide
      not_mark := by decide
      no_feed := by decide
      no_return := by decide
      input := by decide +kernel
      fits := Output.fits_of_room (by decide +kernel) _ }
  obtain ⟨-, next, t'', hnext, -, -, -, hsplit, houtput, -, hmore, -⟩ :=
    fix_amends_first hplays htyped
  have hfixed := hsplit [] ["TODO"] hcurrent (by decide)
  refine ⟨step, t', hplays, htyped, hcurrent, next, t'', hnext, ?_, hmore⟩
  rw [houtput, hfixed]
  rfl

end Session

end AnchorOutline
