import AnchorOutline.Proofs.Active.Registration
import AnchorOutline.Session.Play

/-!
# What is true throughout a session

A session takes one step after the other, each for a line of input. Whatever the lines, the files and
the store, its controller is sound between commands, and so will it be after the command that is going
on, however that one is answered.

* `SessionCommand.parse_name` : the names of the commands;
* `Session.Sound` : the invariant;
* `Session.ensures_feed` : a step for a line keeps it;
* `Session.Plays` : the steps that a session takes on a terminal;
* `Session.Plays.sound` : the invariant holds after each of them.
-/

namespace AnchorOutline

/-! ## Commands -/

namespace SessionCommand

theorem parse_name (command : SetCommand) : parse command.name = onSet command := by
  cases command <;> cbv

theorem parse_show : parse "show" = .show := by cbv

end SessionCommand

def Phase.isCommand : Phase → Bool
  | .command => true
  | .prompt .. => false

namespace Session

variable {σ α : Type}

/-! ## Dialogues up to a prompt -/

/-- What is true of the result of a dialogue, now or however it goes on. -/
def Progress.Promises (P : α → Prop) : Progress σ α → Prop
  | .finished result _ => P result
  | .waiting _ next _ => ∀ reply, (next reply).Ensures fun _ => P

theorem ensures_advance (store : SetStore σ) {d : Dialogue α} {P : α → Prop}
    (h : d.Ensures fun _ => P) (s : σ) :
    (advance store d s).Ensures fun _ progress => progress.Promises P := by
  induction d generalizing s with
  | done result => exact h
  | ask q next ih =>
    cases q with
    | prompt p => exact h
    | getSets =>
      rw [advance, Interaction.ensures_bind]
      exact Interaction.ensures_of_forall (fun _ (result, s) => ih result (h result) s) _
    | putSets sets =>
      rw [advance, Interaction.ensures_bind]
      exact Interaction.ensures_of_forall (fun _ (result, s) => ih result (h result) s) _
    | note n =>
      rw [advance, Interaction.ensures_bind]
      exact Interaction.ensures_of_forall (fun _ _ => ih () (h ()) s) _
    | check holds =>
      rw [advance]
      exact ih () (h ()) s

/-! ## The invariant -/

/-- A controller as a session has it between commands, with nobody else at its table. -/
def SoundController (c : Controller) : Prop :=
  c.Sound SetCommand.all.length .filesAndUntitled []

/-- The controller of a session is sound, and will be so after the command that is going on. -/
structure Sound (s : Session σ) : Prop where
  controller : SoundController s.controller
  pending : ∀ command p next, s.phase = .prompt command p next →
    ∀ reply, (next reply).Ensures fun _ r => SoundController r.2

/-- A step that does not end the session leaves it sound. -/
def StepSound (step : Step σ) : Prop := step.ending = none → step.session.Sound

variable {s : Session σ} {setup : SessionSetup σ}

theorem sound_of_command (h : SoundController s.controller) (hphase : s.phase = .command) :
    s.Sound := by
  refine ⟨h, fun command p next hprompt => ?_⟩
  rw [hphase] at hprompt
  cases hprompt

theorem stepSound_prompted (h : SoundController s.controller) (printed : String) :
    StepSound (s.prompted printed) :=
  fun _ => sound_of_command h rfl

theorem stepSound_start (store : σ) : StepSound (start store) :=
  stepSound_prompted (s := ⟨Controller.initial SetCommand.all.length, store, .command⟩)
    (Controller.sound_initial SetCommand.all.length .filesAndUntitled) _

/-! ## Steps -/

/-- However far an operation comes, the session is sound if the operation leaves a sound
controller. -/
theorem ensures_proceed (h : s.Sound) (command : SetCommand) {operation : Operation}
    (hoperation : operation.Ensures fun _ r => SoundController r.2) :
    (proceed setup s command operation).Ensures fun _ => StepSound := by
  rw [proceed, Interaction.ensures_bind]
  refine (ensures_advance setup.store hoperation s.store).mono fun _ progress hprogress => ?_
  cases progress with
  | finished result store => exact fun _ => sound_of_command hprogress rfl
  | waiting p next store =>
    intro _
    refine ⟨h.controller, fun command' p' next' hphase => ?_⟩
    cases hphase
    exact hprogress

theorem ensures_close : (close setup s).Ensures fun _ => StepSound := by
  rw [close, Interaction.ensures_bind]
  refine Interaction.ensures_of_forall (fun _ progress => ?_) _
  cases progress with
  | finished registry store => exact nofun
  | waiting p next store => exact nofun

theorem ensures_obey (h : s.Sound) (command : SessionCommand) :
    (obey setup s command).Ensures fun _ => StepSound := by
  cases command with
  | onSet command =>
    refine ensures_proceed h command ?_
    exact (h.controller.ensures_operation command).mono fun _ _ hkept => hkept.1
  | «show» =>
    rw [obey, Interaction.ensures_bind]
    exact Interaction.ensures_of_forall (fun _ _ => stepSound_prompted h.controller _) _
  | list => exact stepSound_prompted h.controller _
  | help => exact stepSound_prompted h.controller _
  | quit => exact ensures_close
  | nothing => exact stepSound_prompted h.controller _
  | unknown text => exact stepSound_prompted h.controller _

theorem ensures_feed (h : s.Sound) (line : Terminal.Line) :
    (s.feed setup line).Ensures fun _ => StepSound := by
  cases hphase : s.phase with
  | command =>
    cases line with
    | text line =>
      simp only [feed, hphase]
      exact ensures_obey h _
    | «over» =>
      simp only [feed, hphase]
      exact ensures_close
    | failed e =>
      simp only [feed, hphase]
      exact nofun
  | prompt command p next =>
    have hnext := h.pending command p next hphase
    cases line with
    | «over» =>
      simp only [feed, hphase]
      exact ensures_proceed h command (hnext _)
    | failed e =>
      simp only [feed, hphase]
      exact ensures_proceed h command (hnext _)
    | text line =>
      simp only [feed, hphase]
      split
      · exact ensures_proceed h command (hnext _)
      · exact fun _ => h

/-! ## Whole sessions -/

/-- The line that is read when a step has been printed, and the step for it. -/
def turn (setup : SessionSetup σ) (step : Step σ) (t : Terminal) : Step σ × Terminal :=
  let (line, t) := (t.print step.output).2.nextLine
  t.perform (step.session.feed setup line)

/-- The same where a command is awaited and the line gives it. -/
def commandTurn (setup : SessionSetup σ) (step : Step σ) (t : Terminal) (command : SessionCommand) :
    Step σ × Terminal :=
  (t.print step.output).2.nextLine.2.perform (obey setup step.session command)

/-- Whether there is a further line and the session takes it. -/
structure GoesOn (step : Step σ) (t : Terminal) : Prop where
  printed : (t.print step.output).1 = .ok ()
  ending : step.ending = none
  more : (t.print step.output).2.nextLine.1 ≠ .over

instance (step : Step σ) (t : Terminal) : Decidable (GoesOn step t) :=
  decidable_of_iff ((t.print step.output).1 = .ok () ∧ step.ending = none ∧
      (t.print step.output).2.nextLine.1 ≠ .over)
    ⟨fun ⟨hprinted, hending, hmore⟩ => ⟨hprinted, hending, hmore⟩,
      fun ⟨hprinted, hending, hmore⟩ => ⟨hprinted, hending, hmore⟩⟩

/-- The steps that a session takes on a terminal from the first one on, each with the terminal on
which it is going to print. Once the input is over, no command is read any more. -/
inductive Plays (setup : SessionSetup σ) (store : σ) (t : Terminal) : Step σ → Terminal → Prop
  | first : Plays setup store t (start store) t
  | next {step : Step σ} {t' : Terminal} (before : Plays setup store t step t')
      (goesOn : GoesOn step t') :
      Plays setup store t (turn setup step t').1 (turn setup step t').2

variable {store : σ} {t t' : Terminal} {step : Step σ}

theorem play_eq_play_turn (h : GoesOn step t) :
    play setup step t = play setup (turn setup step t).1 (turn setup step t).2 := by
  obtain ⟨hprinted, hending, hmore⟩ := h
  rw [play]
  unfold turn
  split
  next hp =>
    rw [hp] at hprinted
    cases hprinted
  next hp =>
    rw [hp] at hmore ⊢
    rw [hending]
    dsimp only at hmore ⊢
    split
    next hl =>
      rw [hl] at hmore
      exact absurd rfl hmore
    next hl => rw [hl]
    next hl => rw [hl]

/-- A session that is played from its beginning is played from every step that it takes. -/
theorem Plays.play_eq (h : Plays setup store t step t') :
    playAll setup store t = play setup step t' := by
  induction h with
  | first => rfl
  | next _ hgoesOn ih => exact ih.trans (play_eq_play_turn hgoesOn)

theorem Plays.command {line : String} {command : SessionCommand} (h : Plays setup store t step t')
    (hparse : SessionCommand.parse line = command)
    (hready : GoesOn step t' ∧ step.session.phase.isCommand = true ∧
      (t'.print step.output).2.nextLine.1 = .text line) :
    Plays setup store t (commandTurn setup step t' command).1
      (commandTurn setup step t' command).2 := by
  obtain ⟨hgoesOn, hphase, hline⟩ := hready
  have hturn : turn setup step t' = commandTurn setup step t' command := by
    show (t'.print step.output).2.nextLine.2.perform
      (step.session.feed setup (t'.print step.output).2.nextLine.1) = _
    rw [hline]
    cases hphase' : step.session.phase with
    | command =>
      simp only [feed, hphase', hparse]
      rfl
    | prompt command p next =>
      rw [hphase'] at hphase
      cases hphase
  exact hturn ▸ h.next hgoesOn

theorem stepSound_turn (h : step.session.Sound) : StepSound (turn setup step t).1 :=
  (ensures_feed h _).transcript _ _

theorem Plays.sound (h : Plays setup store t step t') : StepSound step := by
  induction h with
  | first => exact stepSound_start store
  | next _ hgoesOn ih => exact stepSound_turn (ih hgoesOn.ending)

end Session

end AnchorOutline
