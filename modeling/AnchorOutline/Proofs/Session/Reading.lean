import AnchorOutline.Proofs.Session.Fixing

/-!
# What a session reads

A session goes from round to round: it prints, reads a line, and carries the line out. The lines of its
rounds are the first ones of its input, one after the other, whether they are commands or answers. The
input is finite, so there is a last round.

* `Terminal.signals`, `Terminal.linesIn` : what comes in, byte by byte, and its lines;
* `Controller.GivesUp` : what a prompt that fails or is cancelled comes to;
* `Session.play_said` : a session says and asks as a terminal does;
* `Session.Round`, `Session.Rounds` : rounds, and those of a whole session;
* `Session.playAll_reads` : what a session reads, and what ends it.
-/

namespace AnchorOutline

/-! ## Lines of what comes in -/

namespace Terminal

/-- A byte that comes in, or a failure to read one. -/
inductive Signal where
  | byte (b : UInt8)
  | failure (message : String)
  deriving Repr, DecidableEq

def signals : List Arrival → List Signal
  | [] => []
  | .bytes bs :: rest => bs.map .byte ++ signals rest
  | .failure message :: rest => .failure message :: signals rest
  | .change _ :: rest => signals rest

/-- The lines of what comes in, the first of which has begun already. A line ends at a line feed, with the
input, or where reading fails; what was read of it is lost then. -/
def linesIn : List UInt8 → List Signal → List Line
  | [], [] => []
  | begun, [] => [lineOf begun false]
  | _, .failure message :: rest => .failed message :: linesIn [] rest
  | begun, .byte b :: rest =>
    if b = lineFeed then lineOf begun true :: linesIn [] rest else linesIn (begun ++ [b]) rest

variable {begun bs before after : List UInt8} {input : List Arrival}

theorem lineOf_ne_over (bs : List UInt8) (hasBreak : Bool) : lineOf bs hasBreak ≠ .over := by
  unfold lineOf
  split <;> simp

theorem linesIn_end (h : begun ≠ []) : linesIn begun [] = [lineOf begun false] := by
  rw [linesIn]
  exact h

theorem linesIn_of_no_feed (h : cutLine bs = none) (rest : List Signal) :
    linesIn begun (bs.map .byte ++ rest) = linesIn (begun ++ bs) rest := by
  induction bs generalizing begun with
  | nil => simp
  | cons b bs ih =>
    rw [cutLine] at h
    split_ifs at h with hb
    rw [List.map_cons, List.cons_append, linesIn, if_neg hb, ih (Option.map_eq_none_iff.mp h),
      List.append_assoc, List.singleton_append]

theorem linesIn_of_feed (h : cutLine bs = some (before, after)) (rest : List Signal) :
    linesIn begun (bs.map .byte ++ rest) =
      lineOf (begun ++ before) true :: linesIn [] (after.map .byte ++ rest) := by
  induction bs generalizing begun before with
  | nil => simp [cutLine] at h
  | cons b bs ih =>
    rw [cutLine] at h
    split_ifs at h with hb
    · cases h
      rw [List.map_cons, List.cons_append, linesIn, if_pos hb, List.append_nil]
    · obtain ⟨⟨first, left⟩, hcut, heq⟩ := Option.map_eq_some_iff.mp h
      cases heq
      rw [List.map_cons, List.cons_append, linesIn, if_neg hb, ih hcut, List.append_assoc,
        List.singleton_append]

/-- The line that is read is the first one, and the others are left. -/
theorem linesIn_readLine (begun : List UInt8) (input : List Arrival) :
    linesIn begun (signals input) =
      if (readLine begun input).line = .over then []
      else (readLine begun input).line :: linesIn [] (signals (readLine begun input).rest) := by
  induction input generalizing begun with
  | nil =>
    rw [readLine]
    by_cases hbegun : begun = []
    · simp [hbegun, linesIn, signals]
    · simp only [if_neg hbegun, if_neg (lineOf_ne_over begun false), signals, linesIn_end hbegun]
      rfl
  | cons a rest ih =>
    cases a with
    | failure message => simp [readLine, signals, linesIn]
    | change c => exact ih begun
    | bytes bs =>
      rw [readLine, signals]
      cases hcut : cutLine bs with
      | none => rw [linesIn_of_no_feed hcut, ih]
      | some cut =>
        obtain ⟨before, after⟩ := cut
        rw [linesIn_of_feed hcut, if_neg (lineOf_ne_over (begun ++ before) true), signals]

/-- The end of the input is found only where nothing is left. -/
theorem signals_of_over (h : (readLine [] input).line = .over) : signals input = [] := by
  have hbegun : ∀ (s : List Signal) (begun : List UInt8), begun ≠ [] → linesIn begun s ≠ [] := by
    intro s
    induction s with
    | nil =>
      intro begun hne
      rw [linesIn_end hne]
      exact List.cons_ne_nil _ _
    | cons signal rest ih =>
      intro begun hne
      cases signal with
      | failure message => simp [linesIn]
      | byte b =>
        rw [linesIn]
        split_ifs
        · exact List.cons_ne_nil _ _
        · exact ih _ (by simp)
  have hlines := linesIn_readLine [] input
  rw [if_pos h] at hlines
  cases hsignals : signals input with
  | nil => rfl
  | cons signal rest =>
    rw [hsignals] at hlines
    cases signal with
    | failure message => simp [linesIn] at hlines
    | byte b =>
      rw [linesIn] at hlines
      split_ifs at hlines
      exact absurd hlines (hbegun rest _ (by simp))

theorem rest_of_over (h : (readLine begun input).line = .over) : (readLine begun input).rest = [] := by
  induction input generalizing begun with
  | nil => rfl
  | cons a rest ih =>
    cases a with
    | failure message => cases h
    | change c => exact ih h
    | bytes bs =>
      rw [readLine] at h ⊢
      cases hcut : cutLine bs with
      | none =>
        rw [hcut] at h
        exact ih h
      | some cut =>
        rw [hcut] at h
        exact absurd h (lineOf_ne_over _ _)

end Terminal

/-! ## Prompts without an answer -/

namespace Controller

variable {c : Controller} {operation : Operation}

/-- What goes on at a prompt is abandoned where the prompt fails, and left where it is cancelled. -/
def GivesUp (c : Controller) : (q : Question) → (q.Answer → Operation) → Prop
  | .prompt _, next =>
    (∀ e, next (.error e) = c.abandon (.host e)) ∧
      ∃ reason, next (.ok .cancelled) = c.leave .cancelled reason
  | _, _ => True

def Yields (c : Controller) : Operation → Prop
  | .done _ => True
  | .ask q next => c.GivesUp q next ∧ ∀ answer, c.Yields (next answer)

/-- A question that is no prompt. -/
def IsQuiet (q : Question) : Prop := ∀ p, q ≠ .prompt p

theorem yields_of_asksOnly (h : operation.AsksOnly IsQuiet) : c.Yields operation := by
  induction operation with
  | done result => trivial
  | ask q next ih =>
    refine ⟨?_, fun answer => ih answer (h.2 answer)⟩
    cases q with
    | prompt p => exact absurd rfl (h.1 p)
    | _ => trivial

theorem yields_of_isTelling (h : operation.AsksOnly (·.isTelling = true)) : c.Yields operation :=
  yields_of_asksOnly (h.mono fun q hq p hp => by
    subst hp
    cases hq)

theorem Yields.of_leads (h : c.Yields operation) {t : List Talk} {q : Question}
    {next : q.Answer → Operation} (hleads : operation.Leads t (.ask q next)) : c.GivesUp q next := by
  induction t generalizing operation with
  | nil =>
    obtain rfl := hleads.eq_of_nil
    exact h.1
  | cons e t ih =>
    obtain ⟨next', rfl, hrest⟩ := hleads.exists_ask
    exact ih (h.2 e.2) hrest

theorem yields_leave (c' : Controller) (outcome : Outcome) (reason : String) :
    c.Yields (c'.leave outcome reason) :=
  yields_of_isTelling ⟨rfl, fun _ => trivial⟩

theorem yields_apply (c' : Controller) (patterns : List String) : c.Yields (c'.apply patterns) :=
  yields_of_isTelling (asksOnly_of_tells (ensures_apply.mpr (tells_activate patterns)))

theorem yields_store (c' : Controller) (id : String) : c.Yields (c'.store id) := by
  refine ⟨trivial, fun given => ?_⟩
  rcases given with e | sets
  · trivial
  · refine ⟨trivial, fun written => ?_⟩
    rcases written with e | written
    · trivial
    · exact ⟨trivial, fun _ => trivial⟩

/-- A prompt yields where it is abandoned and left as prompts are, and what follows an answer yields. -/
theorem yields_prompt {p : Prompt} {next : Except HostFailure Reply → Operation}
    (hfailed : ∀ e, next (.error e) = c.abandon (.host e))
    (hcancelled : ∃ reason, next (.ok .cancelled) = c.leave .cancelled reason)
    (hsubmitted : ∀ text, c.Yields (next (.ok (.submitted text)))) :
    c.Yields (.ask (.prompt p) next) := by
  refine ⟨⟨hfailed, hcancelled⟩, fun reply => ?_⟩
  rcases reply with e | (text | _)
  · rw [hfailed]
    trivial
  · exact hsubmitted text
  · obtain ⟨reason, hleft⟩ := hcancelled
    rw [hleft]
    exact yields_leave c _ reason

theorem yields_define (c : Controller) : c.Yields c.define :=
  yields_prompt (fun _ => rfl) ⟨_, rfl⟩ fun _ => yields_apply c _

theorem yields_add (c : Controller) : c.Yields c.add := by
  refine yields_prompt (fun _ => rfl) ⟨_, rfl⟩ fun pattern => ?_
  simp only [pure, Interaction.bind]
  split
  next => exact yields_leave c _ _
  next => exact yields_apply c _

theorem yields_fix (c : Controller) : c.Yields c.fix := by
  unfold fix
  split
  next => exact yields_leave c _ _
  next =>
    refine yields_prompt (fun _ => rfl) ⟨_, rfl⟩ fun chosen => ?_
    simp only [pure, Interaction.bind]
    split
    next => exact yields_leave c _ _
    next =>
      exact yields_prompt (fun _ => rfl) ⟨_, rfl⟩ fun replacement =>
        yields_of_isTelling (asksOnly_amend c _ replacement)

theorem yields_load (c : Controller) : c.Yields c.load := by
  refine ⟨trivial, fun given => ?_⟩
  rcases given with e | sets
  · trivial
  · show c.Yields (if sets.isEmpty then _ else _)
    split
    next => exact yields_leave c _ _
    next =>
      refine yields_prompt (fun _ => rfl) ⟨_, rfl⟩ fun chosen => ?_
      simp only [pure, Interaction.bind]
      split
      next => exact yields_leave c _ _
      next => exact ⟨trivial, fun _ => yields_apply c _⟩

theorem yields_save (c : Controller) : c.Yields c.save := by
  unfold save
  split
  next => exact yields_leave c _ _
  next =>
    refine yields_prompt (fun _ => rfl) ⟨_, rfl⟩ fun answer => ?_
    simp only [pure, Interaction.bind]
    split
    next => exact yields_leave c _ _
    next => exact yields_store c _

theorem yields_operation (c : Controller) (command : SetCommand) : c.Yields (command.operation c) := by
  cases command with
  | new => exact yields_define c
  | add => exact yields_add c
  | fix => exact yields_fix c
  | load => exact yields_load c
  | save => exact yields_save c

end Controller

namespace Session

open Terminal

variable {σ : Type} {setup : SessionSetup σ} {s : Session σ} {step : Step σ} {t : Terminal}

/-! ## Steps for lines that are no text -/

/-- A session that is not at its commands waits at a prompt of an operation, which gives up as prompts do. -/
theorem Ongoing.exists_prompt (h : s.Ongoing) (hphase : s.phase.isCommand = false) :
    ∃ command p next, s.phase = .prompt command p next ∧ s.controller.GivesUp (.prompt p) next := by
  cases hwaits : s.phase with
  | command =>
    rw [hwaits] at hphase
    cases hphase
  | prompt command p next =>
    obtain ⟨t, hleads⟩ := h command p next hwaits
    exact ⟨command, p, next, rfl, (Controller.yields_operation s.controller command).of_leads hleads⟩

/-- Where the answer to a prompt cannot be read, that is said, and nothing has changed. -/
theorem feed_failed_of_prompt (h : s.Ongoing) (hphase : s.phase.isCommand = false) (e : String) :
    s.feed setup (.failed e) = pure (s.said s!"Error: Host UI error: {e}") := by
  obtain ⟨command, p, next, hwaits, hfailed, -⟩ := h.exists_prompt hphase
  simp only [feed, hwaits, hfailed]
  rfl

theorem run_feed_over_of_prompt (h : s.Ongoing) (hphase : s.phase.isCommand = false) (m : Machine) :
    (m.run (s.feed setup .over)).1 = s.said "Cancelled." := by
  obtain ⟨command, p, next, hwaits, -, reason, hcancelled⟩ := h.exists_prompt hphase
  simp only [feed, hwaits, hcancelled]
  rfl

theorem run_close (setup : SessionSetup σ) (s : Session σ) (m : Machine) :
    (m.run (close setup s)).1.output = "" ∧ (m.run (close setup s)).1.ending = some .quit := by
  rw [close, Machine.run_bind]
  cases (m.run (advance setup.store s.controller.shutdown s.store)).1 with
  | finished registry store => exact ⟨rfl, rfl⟩
  | waiting p next store => exact ⟨rfl, rfl⟩

theorem parse_quit {line : String} (h : Text.trim line ∈ ["quit", "exit", "q"]) :
    SessionCommand.parse line = .quit := by
  simp only [List.mem_cons, List.not_mem_nil, or_false] at h
  rcases h with h | h | h <;> simp [SessionCommand.parse, h]

/-! ## What is said and asked -/

theorem play_of_ends (setup : SessionSetup σ) {ending : Ending} (houtput : step.output = "")
    (hending : step.ending = some ending) (t : Terminal) :
    play setup step t = ⟨ending, step.session, t⟩ := by
  rw [play_eq, houtput, print_empty, hending]

theorem finish_of_ends (setup : SessionSetup σ) (n : Nat) {ending : Ending}
    (houtput : step.output = "") (hending : step.ending = some ending) (t : Terminal) :
    finish setup (n + 1) step t = ⟨ending, step.session, t⟩ := by
  rw [finish, houtput, print_empty, hending]

/-- Where a command is awaited, a session says what it has to say and reads the command as a terminal does.
It goes on with the command, and quits at the end of the input. -/
theorem play_said (setup : SessionSetup σ) (hphase : s.phase = .command) (message : String)
    (t : Terminal) :
    play setup (s.said message) t = match t.say message with
      | (.error e, t) => ⟨.failed e, s, t⟩
      | (.ok (), t) => match t.command with
        | (.error e, t) => ⟨.failed e, s, t⟩
        | (.ok none, t) => ⟨.quit, (t.perform (close setup s)).1.session, (t.perform (close setup s)).2⟩
        | (.ok (some text), t) =>
          let next := t.perform (obey setup s (SessionCommand.parse text))
          play setup next.1 next.2 := by
  have hsession : (s.said message).session = s := by
    cases s
    cases hphase
    rfl
  have hending : (s.said message).ending = none := rfl
  have houtput : (s.said message).output = message ++ "\n" ++ commandPrompt := rfl
  rw [play_eq, hsession, hending, houtput, print_append, say]
  rcases t.print (message ++ "\n") with ⟨⟨e⟩ | ⟨⟨⟩⟩, t₁⟩
  · rfl
  · dsimp only
    rw [Terminal.command]
    rcases t₁.print commandPrompt with ⟨⟨e⟩ | ⟨⟨⟩⟩, t₂⟩
    · rfl
    · dsimp only
      rcases t₂.nextLine with ⟨line, t₃⟩
      cases line with
      | text line =>
        have hparse : SessionCommand.parse (Text.trim line) = SessionCommand.parse line := by
          rw [SessionCommand.parse, SessionCommand.parse, Text.trim_trim]
        simp [feed, hphase, hparse]
      | failed e =>
        have hfeed : s.feed setup (.failed e) = pure ⟨"", s, some (.failed e)⟩ := by simp only [feed, hphase]
        rw [hfeed]
        exact play_of_ends setup rfl rfl t₃
      | «over» =>
        have hfeed : s.feed setup .over = close setup s := by simp only [feed, hphase]
        have hclosed := run_close setup s t₃.machine
        rw [hfeed]
        exact finish_of_ends setup 1 hclosed.1 hclosed.2 _

/-! ## Rounds -/

/-- A round of a session: what a step prints is printed on a terminal, and a line is read. -/
structure Round (σ : Type) where
  step : Step σ
  terminal : Terminal

namespace Round

/-- Whether the line is read as a command, and not as an answer. -/
def isCommand (r : Round σ) : Bool := r.step.session.phase.isCommand

def reading (r : Round σ) : Line × Terminal := (r.terminal.print r.step.output).2.nextLine

def line (r : Round σ) : Line := r.reading.1

/-- The step for the line, and the terminal that it is printed on. -/
def next (setup : SessionSetup σ) (r : Round σ) : Step σ × Terminal := turn setup r.step r.terminal

end Round

/-- The rounds of a session from a step on, and what it has come to then: it is over where printing fails,
or where a step ends it. -/
inductive Rounds (setup : SessionSetup σ) : Step σ → Terminal → List (Round σ) → Played σ → Prop
  | closed {step : Step σ} {t : Terminal} {e : String}
      (unprinted : (t.print step.output).1 = .error e) :
      Rounds setup step t [] ⟨.failed e, step.session, (t.print step.output).2⟩
  | ended {step : Step σ} {t : Terminal} {ending : Ending}
      (printed : (t.print step.output).1 = .ok ()) (ends : step.ending = some ending) :
      Rounds setup step t [] ⟨ending, step.session, (t.print step.output).2⟩
  | round {step : Step σ} {t : Terminal} {rounds : List (Round σ)} {played : Played σ}
      (printed : (t.print step.output).1 = .ok ()) (goesOn : step.ending = none)
      (rest : Rounds setup (turn setup step t).1 (turn setup step t).2 rounds played) :
      Rounds setup step t (⟨step, t⟩ :: rounds) played

variable {rounds : List (Round σ)} {played : Played σ} {r : Round σ}

theorem eq_of_unprinted {text e : String} (h : (t.print text).1 = .error e) : e = outputClosed := by
  have hwrite : (if (t.output.write text).1 then .ok () else .error outputClosed : Except String Unit) =
      .error e := h
  split_ifs at hwrite
  exact (Except.error.inj hwrite).symm

theorem nextLine_of_nil (h : t.input = []) : t.nextLine = (.over, t) := by
  obtain ⟨input, output, machine⟩ := t
  cases h
  rfl

/-- From a step on there are rounds if there are some behind it, in case that it does not end. -/
theorem rounds_of_rest {rest : Terminal → Played σ}
    (h : step.ending = none → ∃ rounds, Rounds setup (turn setup step t).1 (turn setup step t).2 rounds
      (rest (t.print step.output).2)) :
    ∃ rounds, Rounds setup step t rounds (match t.print step.output with
      | (.error e, t) => ⟨.failed e, step.session, t⟩
      | (.ok (), t) =>
        match step.ending with
        | some ending => ⟨ending, step.session, t⟩
        | none => rest t) := by
  cases hprint : (t.print step.output).1 with
  | error e =>
    have hclosed : Rounds setup step t [] _ := .closed hprint
    rw [← Prod.mk.eta (p := t.print step.output), hprint]
    exact ⟨[], hclosed⟩
  | ok printed =>
    rw [← Prod.mk.eta (p := t.print step.output), hprint]
    cases hending : step.ending with
    | some ending => exact ⟨[], .ended hprint hending⟩
    | none =>
      obtain ⟨rounds, hrounds⟩ := h hending
      exact ⟨⟨step, t⟩ :: rounds, .round hprint hending hrounds⟩

/-- Where the input is over and no prompt waits, the session ends at once or with the next step. -/
theorem finish_rounds (hinput : t.input = [])
    (hstep : step.ending ≠ none ∨ step.session.phase = .command) :
    ∃ rounds, Rounds setup step t rounds (finish setup 2 step t) := by
  have hends (step : Step σ) (t : Terminal) (hending : step.ending ≠ none) :
      ∃ rounds, Rounds setup step t rounds (finish setup 1 step t) := by
    rw [finish]
    exact rounds_of_rest fun hnone => absurd hnone hending
  rw [finish]
  refine rounds_of_rest fun hnone => ?_
  have hphase : step.session.phase = .command := hstep.resolve_left fun hne => hne hnone
  have hprinted : (t.print step.output).2.input = [] := hinput
  have hturn : turn setup step t = (t.print step.output).2.perform (close setup step.session) := by
    rw [turn, nextLine_of_nil hprinted]
    simp only [feed, hphase]
  have hclosed := run_close setup step.session (t.print step.output).2.machine
  rw [hturn]
  simp only [feed, hphase]
  exact hends _ _ (by simp [Terminal.perform, hclosed.2])

theorem input_turn (setup : SessionSetup σ) (step : Step σ) (t : Terminal) :
    (turn setup step t).2.input = (readLine [] t.input).rest := rfl

/-! ## What a round comes to -/

/-- Where a command is awaited and the input is over, the session is closed. -/
theorem turn_of_over_command (hphase : step.session.phase.isCommand = true)
    (hline : (t.print step.output).2.nextLine.1 = .over) :
    (turn setup step t).1.output = "" ∧ (turn setup step t).1.ending = some .quit := by
  have hcommand := Phase.eq_command hphase
  rw [turn_eq_perform hline]
  simp only [feed, hcommand]
  exact run_close setup step.session _

theorem turn_of_over_prompt (h : step.session.Ongoing) (hphase : step.session.phase.isCommand = false)
    (hline : (t.print step.output).2.nextLine.1 = .over) :
    (turn setup step t).1 = step.session.said "Cancelled." := by
  rw [turn_eq_perform hline]
  exact run_feed_over_of_prompt h hphase _

theorem play_rounds (h : step.session.Ongoing) (t : Terminal) :
    ∃ rounds, Rounds setup step t rounds (play setup step t) := by
  induction hweight : Terminal.weight t.input using Nat.strongRecOn generalizing step t with
  | ind w ih =>
    rw [play_eq]
    refine rounds_of_rest fun hnone => ?_
    have hongoing : (turn setup step t).1.session.Ongoing := ongoing_feed h _ _
    split
    next hover =>
      have hstep : (turn setup step t).1.ending ≠ none ∨
          (turn setup step t).1.session.phase = .command := by
        cases hphase : step.session.phase.isCommand with
        | true => exact .inl (by simp [(turn_of_over_command hphase hover).2])
        | false => exact .inr (by rw [turn_of_over_prompt h hphase hover]; rfl)
      exact finish_rounds (rest_of_over hover) hstep
    next hmore =>
      refine ih _ ?_ hongoing _ rfl
      have hless := Terminal.weight_nextLine_lt hmore
      rwa [Terminal.input_print, hweight] at hless

/-- The lines of the rounds are the first ones of the input, and the others are left. -/
theorem Rounds.lines (h : Rounds setup step t rounds played) :
    linesIn [] (signals t.input) = (rounds.map Round.line).filter (· ≠ .over) ++
      linesIn [] (signals played.terminal.input) := by
  induction h with
  | closed => rfl
  | ended => rfl
  | @round step t rounds played printed goesOn rest ih =>
    rw [linesIn_readLine, List.map_cons]
    have hline : (Round.mk step t).line = (readLine [] t.input).line := rfl
    rw [input_turn] at ih
    by_cases hover : (readLine [] t.input).line = .over
    · rw [rest_of_over hover] at ih
      rw [if_pos hover, List.filter_cons_of_neg (by simp [hline, hover]), ← ih]
      rfl
    · rw [if_neg hover, List.filter_cons_of_pos (by simp [hline, hover]), ih, hline, List.cons_append]

theorem Rounds.of_ends (h : Rounds setup step t rounds played) {ending : Ending}
    (hending : step.ending = some ending) (houtput : step.output = "") :
    rounds = [] ∧ played.ending = ending ∧ played.terminal.input = t.input := by
  cases h with
  | closed unprinted =>
    rw [houtput, print_empty] at unprinted
    cases unprinted
  | ended printed ends => exact ⟨rfl, Option.some.inj (ends.symm.trans hending), rfl⟩
  | round printed goesOn rest =>
    rw [goesOn] at hending
    cases hending

theorem Rounds.length_le_one (h : Rounds setup step t rounds played) (hinput : t.input = [])
    (hphase : step.session.phase.isCommand = true) : rounds.length ≤ 1 := by
  cases h with
  | closed => exact Nat.zero_le 1
  | ended => exact Nat.zero_le 1
  | round printed goesOn rest =>
    have hprinted : (t.print step.output).2.input = [] := hinput
    have hover : (t.print step.output).2.nextLine.1 = .over := by rw [nextLine_of_nil hprinted]
    obtain ⟨houtput, hending⟩ := turn_of_over_command hphase hover
    obtain ⟨rfl, -⟩ := rest.of_ends hending houtput
    exact Nat.le_refl 1

/-- From each round on, a session goes as it does from its first step on. -/
theorem Rounds.of_append {before later : List (Round σ)}
    (h : Rounds setup step t (before ++ r :: later) played) (hongoing : step.session.Ongoing) :
    r.step.session.Ongoing ∧ Rounds setup (r.next setup).1 (r.next setup).2 later played := by
  induction before generalizing step t with
  | nil =>
    cases h with
    | round printed goesOn rest => exact ⟨hongoing, rest⟩
  | cons first before ih =>
    cases h with
    | round printed goesOn rest => exact ih rest (ongoing_feed hongoing _ _)

/-- A round is the last one, and what is not read in it is left. -/
structure Round.Ends (r : Round σ) (later : List (Round σ)) (played : Played σ) (ending : Ending) :
    Prop where
  last : later = []
  ending : played.ending = ending
  unread : played.terminal.input = r.reading.2.input

/-- What a round comes to, others being later up to the end of the session. -/
structure Round.Outcome (setup : SessionSetup σ) (r : Round σ) (later : List (Round σ))
    (played : Played σ) : Prop where
  /-- Every line takes something from the input. -/
  takes : r.line ≠ .over → weight (r.next setup).2.input < weight r.terminal.input
  /-- Nothing is left where no line is found. -/
  used : r.line = .over → signals r.terminal.input = []
  over_command : r.isCommand = true → r.line = .over → r.Ends later played .quit
  over_prompt : r.isCommand = false → r.line = .over →
    (r.next setup).1 = r.step.session.said "Cancelled." ∧ later.length ≤ 1
  quit_command : ∀ line, r.isCommand = true → r.line = .text line →
    Text.trim line ∈ ["quit", "exit", "q"] → r.Ends later played .quit
  failed_command : ∀ e, r.isCommand = true → r.line = .failed e → r.Ends later played (.failed e)
  /-- The failure is told, with the same controller and the same store, and the next round goes on behind
  what failed, if there is room to tell it. -/
  failed_prompt : ∀ e, r.isCommand = false → r.line = .failed e →
    r.next setup = (r.step.session.said s!"Error: Host UI error: {e}", r.reading.2) ∧
      (later.head? = some ⟨(r.next setup).1, (r.next setup).2⟩ ∨
        later = [] ∧ played.ending = .failed outputClosed)

theorem Rounds.head? (h : Rounds setup step t rounds played) (hending : step.ending = none) :
    rounds.head? = some ⟨step, t⟩ ∨ rounds = [] ∧ played.ending = .failed outputClosed := by
  cases h with
  | closed unprinted =>
    exact .inr ⟨rfl, congrArg Ending.failed (eq_of_unprinted unprinted)⟩
  | ended printed ends =>
    rw [hending] at ends
    cases ends
  | round printed goesOn rest => exact .inl rfl

theorem Round.outcome {later : List (Round σ)} (hongoing : r.step.session.Ongoing)
    (h : Rounds setup (r.next setup).1 (r.next setup).2 later played) : r.Outcome setup later played := by
  have hends {ending : Ending} (houtput : (r.next setup).1.output = "")
      (hending : (r.next setup).1.ending = some ending) : r.Ends later played ending := by
    obtain ⟨hlast, hended, hunread⟩ := h.of_ends hending houtput
    exact ⟨hlast, hended, hunread⟩
  constructor
  case takes => exact fun hmore => weight_readLine_lt hmore
  case used => exact fun hover => signals_of_over hover
  case over_command =>
    intro hcommand hover
    have hnext : (r.next setup).1.output = "" ∧ (r.next setup).1.ending = some .quit :=
      turn_of_over_command hcommand hover
    exact hends hnext.1 hnext.2
  case over_prompt =>
    intro hprompt hover
    have hnext : (r.next setup).1 = r.step.session.said "Cancelled." :=
      turn_of_over_prompt hongoing hprompt hover
    exact ⟨hnext, h.length_le_one (rest_of_over hover) (by rw [hnext]; rfl)⟩
  case quit_command =>
    intro line hcommand hline hquit
    have hphase := Phase.eq_command hcommand
    have hnext : r.next setup = r.reading.2.perform (close setup r.step.session) := by
      rw [Round.next, turn_eq_perform hline]
      simp only [feed, hphase, parse_quit hquit, obey]
      rfl
    obtain ⟨houtput, hending⟩ := run_close setup r.step.session r.reading.2.machine
    exact hends (by rw [hnext]; exact houtput) (by rw [hnext]; exact hending)
  case failed_command =>
    intro e hcommand hline
    have hphase := Phase.eq_command hcommand
    have hnext : (r.next setup).1 =
        { output := "", session := r.step.session, ending := some (.failed e) } := by
      rw [Round.next, turn_eq_perform hline]
      simp only [feed, hphase]
      rfl
    exact hends (by rw [hnext]) (by rw [hnext])
  case failed_prompt =>
    intro e hprompt hline
    have hnext : r.next setup = (r.step.session.said s!"Error: Host UI error: {e}", r.reading.2) := by
      rw [Round.next, turn_eq_perform hline, feed_failed_of_prompt hongoing hprompt]
      rfl
    refine ⟨hnext, h.head? ?_⟩
    rw [hnext]
    rfl

/-- A session reads the lines of its input one after the other, whether as commands or as answers, and has
finitely many rounds. The end of the input, a command to quit and a command that cannot be read end it;
an answer that cannot be read is told, and the session goes on. -/
theorem playAll_reads (setup : SessionSetup σ) (store : σ) (t : Terminal) :
    let played := playAll setup store t
    ∃ rounds, Rounds setup (start store) t rounds played ∧
      linesIn [] (signals t.input) = (rounds.map Round.line).filter (· ≠ .over) ++
        linesIn [] (signals played.terminal.input) ∧
      ∀ before r later, rounds = before ++ r :: later → r.Outcome setup later played := by
  intro played
  have hongoing : (start store).session.Ongoing := ongoing_of_command rfl
  obtain ⟨rounds, hrounds⟩ : ∃ rounds, Rounds setup (start store) t rounds played :=
    play_rounds hongoing t
  refine ⟨rounds, hrounds, hrounds.lines, fun before r later hsplit => ?_⟩
  subst hsplit
  obtain ⟨hwaits, hlater⟩ := hrounds.of_append hongoing
  exact Round.outcome hwaits hlater

end Session

end AnchorOutline
