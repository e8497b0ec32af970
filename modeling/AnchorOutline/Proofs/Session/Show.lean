import AnchorOutline.Proofs.Outline.Listing
import AnchorOutline.Proofs.Session.Run
import AnchorOutline.Proofs.Terminal.Printing

/-!
# What a session shows

A session shows its file through the table of providers, line by line. What it prints is the outline
that a provider with the active patterns would give at once.

* `Controller.Sound.tryProvide_eq` : the table answers like one provider with the active patterns;
* `Session.join_showLines` : the lines that are shown are the outline;
* `Session.show_prints_outline` : so it is whenever a session shows its file.
-/

namespace AnchorOutline

/-! ## The table -/

theorem Provider.symbols_nil (engine : Regex.Engine) (d : Document) :
    (Provider.mk []).symbols engine d = .ok [] := rfl

theorem Document.scheme_ofPath (path text : String) : (Document.ofPath path text).scheme = "file" := by
  have huri : (Document.ofPath path text).uri.toList =
      ['f', 'i', 'l', 'e', ':', '/', '/'] ++ path.toList := by
    rw [Document.ofPath, String.toList_append]
    rfl
  rw [Document.scheme, huri]
  simp

theorem Document.selects_ofPath (path text : String) :
    Selector.filesAndUntitled.selects (Document.ofPath path text) = true := by
  rw [Selector.selects, Document.scheme_ofPath]
  rfl

namespace Controller

variable {c : Controller} {n : Nat} {selector : Selector} {d : Document}

/-- A table with no entries of others answers like one provider with the active patterns. -/
theorem Sound.tryProvide_eq (h : c.Sound n selector []) (hd : selector.selects d = true)
    (engine : Regex.Engine) :
    c.registry.tryProvide engine d = (Provider.mk c.current).symbols engine d := by
  obtain ⟨live, -, hlive, hown⟩ := h.live
  have hentries : c.registry.entries =
      (live.map fun id => ⟨id, selector, ⟨c.current⟩⟩).toList := by
    rw [← hown, Registry.own]
    simp
  rw [Registry.tryProvide, Registry.matching, hentries]
  cases live with
  | none =>
    rw [hlive.mp rfl, Provider.symbols_nil]
    rfl
  | some id =>
    have hmatching : ([⟨id, selector, ⟨c.current⟩⟩] : List Registration).filter
        (·.selector.selects d) = [⟨id, selector, ⟨c.current⟩⟩] := by simp [hd]
    rw [Option.map_some, Option.toList_some, hmatching]
    cases hsymbols : (Provider.mk c.current).symbols engine d with
    | error e => simp [hsymbols]
    | ok symbols => simp [hsymbols]

end Controller

/-! ## Showing -/

theorem DocumentFile.eq_ofPath_of_read {m : Machine} {path : String} {d : Document}
    (h : (m.run (DocumentFile.read path)).1 = .ok d) : ∃ text, d = .ofPath path text := by
  rw [DocumentFile.read, Machine.run, Interaction.run_bind] at h
  split at h
  next text _ =>
    cases h
    exact ⟨text, rfl⟩
  next => cases h

namespace Session

variable {σ : Type} {setup : SessionSetup σ} {s : Session σ} {m : Machine} {d : Document}

/-- What is printed for an outline, or for the reason why there is none. -/
def shown : Except InvalidPattern String → String
  | .ok outline => (if outline = "" then "(no symbols)" else outline) ++ "\n"
  | .error e => "Error: " ++ e.message ++ "\n"

/-- What is shown depends on the answer of the table alone. -/
theorem run_showLines (hread : (m.run (DocumentFile.read setup.file)).1 = .ok d) :
    (m.run (showLines setup s)).1 = match s.controller.registry.tryProvide setup.engine d with
      | .error e => [reportError e.message]
      | .ok [] => ["(no symbols)"]
      | .ok symbols => symbols.map SymbolInformation.line := by
  rw [Machine.run] at hread
  rw [showLines, Machine.run, Interaction.run_bind, hread]
  dsimp only
  rw [Interaction.run_bind]
  cases s.controller.registry.tryProvide setup.engine d with
  | error e => rfl
  | ok symbols =>
    cases symbols with
    | nil => rfl
    | cons symbol rest => rfl

/-- The lines that are shown are the outline that the active patterns give at once. -/
theorem join_showLines (hs : SoundController s.controller)
    (hread : (m.run (DocumentFile.read setup.file)).1 = .ok d) :
    String.join ((m.run (showLines setup s)).1.map (· ++ "\n")) =
      shown (renderOutline setup.engine s.controller.current d false) := by
  obtain ⟨text, rfl⟩ := DocumentFile.eq_ofPath_of_read hread
  rw [run_showLines hread, hs.tryProvide_eq (Document.selects_ofPath _ _), renderOutline_plain]
  cases (Provider.mk s.controller.current).symbols setup.engine (.ofPath setup.file text) with
  | error e =>
    have hline : reportError e.message = "Error: " ++ e.message := rfl
    simp [shown, hline, Except.map, String.join_cons]
  | ok symbols =>
    cases symbols with
    | nil => rfl
    | cons symbol rest =>
      have hne : plainListing (symbol :: rest) ≠ "" := by simp [plainListing_eq_empty]
      simp only [Except.map, shown, if_neg hne]
      exact join_lines symbol rest

/-- Whenever a session shows its file, and the file can be read, it prints the outline that the
active patterns give at once: a line saying so if the outline is empty, and the reason if there is
none. Then it waits for a command with the same patterns. -/
theorem show_prints_outline {store : σ} {t t' t'' : Terminal} {step : Step σ} {line : String}
    (hplays : Plays setup store t step t') (hgoesOn : GoesOn step t')
    (hphase : step.session.phase = .command)
    (hline : (t'.print step.output).2.nextLine = (.text line, t''))
    (hshow : SessionCommand.parse line = .show)
    (hread : (t''.machine.run (DocumentFile.read setup.file)).1 = .ok d) :
    let outline := renderOutline setup.engine step.session.controller.current d false
    ∃ next terminal, turn setup step t' = (next, terminal) ∧
      playAll setup store t = play setup next terminal ∧
      next.ending = none ∧ next.session.phase = .command ∧
      next.session.controller = step.session.controller ∧
      next.output = shown outline ++ Terminal.commandPrompt ∧
      ((terminal.print next.output).1 = .ok () → (terminal.print next.output).2.output.text =
        t''.output.text ++ shown outline ++ Terminal.commandPrompt) := by
  intro outline
  have hsound : SoundController step.session.controller := (hplays.sound hgoesOn.ending).controller
  have hplay := (hplays.next hgoesOn).play_eq
  have hfeed : step.session.feed setup (.text line) = obey setup step.session .show := by
    simp only [feed, hphase, hshow]
  have hjoin : String.join ((t''.machine.run (showLines setup step.session)).1.map (· ++ "\n")) =
      shown outline := join_showLines hsound hread
  have hturn : turn setup step t' =
      (step.session.prompted (shown outline),
        { t'' with machine := (t''.machine.run (showLines setup step.session)).2 }) := by
    rw [turn, hline]
    dsimp only
    rw [hfeed, Terminal.perform, Machine.run, obey, Interaction.run_bind]
    rw [← hjoin]
    rfl
  rw [hturn] at hplay
  refine ⟨_, _, hturn, hplay, rfl, rfl, rfl, rfl, fun hprinted => ?_⟩
  rw [Terminal.text_of_print hprinted, String.append_assoc]
  rfl

/-- A session with one pattern: it is asked for, given, and then the file is shown. -/
theorem show_prints_one_section :
    let setup : SessionSetup (List PatternSet) := ⟨Regex.engine, "notes", .memory⟩
    let t : Terminal := {
      input := [.bytes "new\nTODO\nshow\n".toByteArray.data.toList]
      machine := { tree := ⟨[(["notes"], .file "TODO x\nrest".toByteArray)]⟩ } }
    ∃ step terminal, playAll setup [] t = play setup step terminal ∧
      step.output = "1:0-2:4  TODO\n> " := by
  intro setup t
  have hstart : Plays setup [] t (start []) t := .first
  have hasked := hstart.command (SessionCommand.parse_name .new) (by decide +kernel)
  let asked := commandTurn setup (start []) t (.onSet .new)
  let defined := turn setup asked.1 asked.2
  have hsecond : Plays setup [] t defined.1 defined.2 := hasked.next (by decide +kernel)
  have hgoesOn : GoesOn defined.1 defined.2 :=
    ⟨by decide +kernel, by decide +kernel, by decide +kernel⟩
  have hline : (defined.2.print defined.1.output).2.nextLine =
      (.text "show", (defined.2.print defined.1.output).2.nextLine.2) :=
    Prod.ext (by decide +kernel) rfl
  have hcurrent : defined.1.session.controller.current = ["TODO"] := by decide +kernel
  obtain ⟨next, terminal, -, hplay, -, -, -, houtput, -⟩ :=
    show_prints_outline (d := .ofPath "notes" "TODO x\nrest") hsecond hgoesOn rfl hline
      SessionCommand.parse_show (by decide +kernel)
  rw [hcurrent] at houtput
  exact ⟨next, terminal, hplay, houtput.trans (by cbv)⟩

end Session

end AnchorOutline
