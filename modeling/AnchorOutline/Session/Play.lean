import AnchorOutline.Session.Basic

/-!
# Sessions on a terminal

* `Session.play` : a session from a step on, line by line, until it ends.
-/

namespace AnchorOutline.Session

open Terminal

variable {σ : Type}

/-- A session that is over: how it ended, where it stood, and the terminal. -/
structure Played (σ : Type) where
  ending : Ending
  session : Session σ
  terminal : Terminal

/-- Goes on when the input is over, for a number of steps. An open prompt is cancelled, and then
the session ends, so two steps are enough. -/
def finish (setup : SessionSetup σ) : Nat → Step σ → Terminal → Played σ
  | 0, step, t => ⟨.quit, step.session, t⟩
  | n + 1, step, t =>
    match t.print step.output with
    | (.error e, t) => ⟨.failed e, step.session, t⟩
    | (.ok (), t) =>
      match step.ending with
      | some ending => ⟨ending, step.session, t⟩
      | none =>
        let (step, t) := t.perform (step.session.feed setup .over)
        finish setup n step t

def play (setup : SessionSetup σ) (step : Step σ) (t : Terminal) : Played σ :=
  match _hp : t.print step.output with
  | (.error e, t) => ⟨.failed e, step.session, t⟩
  | (.ok (), t') =>
    match step.ending with
    | some ending => ⟨ending, step.session, t'⟩
    | none =>
      match _hl : t'.nextLine with
      | (.over, t'') =>
        let (step, t'') := t''.perform (step.session.feed setup .over)
        finish setup 2 step t''
      | (.text line, t'') =>
        let next := t''.perform (step.session.feed setup (.text line))
        play setup next.1 next.2
      | (.failed e, t'') =>
        let next := t''.perform (step.session.feed setup (.failed e))
        play setup next.1 next.2
termination_by weight t.input
decreasing_by
  all_goals
    have hin : t'.input = t.input := by
      have := input_print step.output t
      rwa [_hp] at this
    have hlt := weight_nextLine_lt (t := t') (by rw [_hl]; simp)
    rwa [_hl, hin] at hlt

def playAll (setup : SessionSetup σ) (store : σ) (t : Terminal) : Played σ :=
  play setup (start store) t

end AnchorOutline.Session
