import AnchorOutline.Proofs.Files.Faults
import AnchorOutline.Terminal.Console

/-!
# Runs of programs that print

Such a program changes files as its calls of the system do, and the output as its texts do. A text may be
refused, and then some of it may have been printed, or whatever there was room for.

* `Terminal.run_bind`, `Terminal.run_silent` : programs on a terminal, in two parts and without printing;
* `ConsoleAction.Within` : a program whose calls of the system are of some kind;
* `Stdout` : what was printed, and whether something was refused;
* `ConsoleAction.MayRun` : the ways in which a program may go on files and output;
* `ConsoleAction.MayRunSeeing` : those in which it is seen whether there is something at a path;
* `Terminal.mayRun_run` : a run on a terminal is one of them.
-/

namespace AnchorOutline

/-! ## On terminals -/

namespace Terminal

variable {α β : Type} {t : Terminal}

def fed (t : Terminal) (input : List Arrival) : Terminal := { t with input := input }

theorem run_bind (t : Terminal) (x : ConsoleAction α) (f : α → ConsoleAction β) :
    t.run (x >>= f) = (t.run x).2.run (f (t.run x).1) :=
  Interaction.run_bind answer x f t

theorem run_silent (t : Terminal) (x : Action α) : t.run (.silent x) = t.perform x := by
  induction x generalizing t with
  | done a => rfl
  | ask call next ih => exact ih _ _

end Terminal

namespace ConsoleAction

variable {α β : Type} {P : SystemCall → Prop}

/-! ## Calls -/

/-- Whatever the answers, all calls of the system are of some kind. -/
def Within (P : SystemCall → Prop) (x : ConsoleAction α) : Prop :=
  x.AsksOnly fun call => ∀ system, call = .system system → P system

end ConsoleAction

/-! ## Files and output -/

/-- What was printed so far, and whether a text was refused. -/
structure Stdout where
  text : String := ""
  refused : Bool := false
  deriving Repr, DecidableEq

namespace ConsoleCall

variable {σ : Type} [FileSystem σ]

/-- What a call may be answered, and the files and the output then. -/
def Goes : (call : ConsoleCall) → σ × Stdout → call.Answer → σ × Stdout → Prop
  | system call, s, answer, s' => call.Goes s.1 answer s'.1 ∧ s'.2 = s.2
  | print text, s, answer, s' => s'.1 = s.1 ∧
    (answer = .ok () ∧ s'.2 = { s.2 with text := s.2.text ++ text } ∨
      ∃ e part, answer = .error e ∧ s'.2 = ⟨s.2.text ++ part, true⟩)

/-- What a call that does not come to its end may leave. -/
def Leaves : ConsoleCall → σ × Stdout → σ × Stdout → Prop
  | system call, s, s' => call.Leaves s.1 s'.1 ∧ s'.2 = s.2
  | print _, s, s' => s'.1 = s.1 ∧ ∃ part, s'.2 = { s.2 with text := s.2.text ++ part }

/-- Where it is asked whether there is something at a path, the answer is true. -/
def Sees : (call : ConsoleCall) → σ × Stdout → call.Answer → Prop
  | system (.isPresent p), s, there => there = (FileSystem.answer (.isPresent p) s.1).1
  | _, _, _ => True

end ConsoleCall

namespace ConsoleAction

variable {σ α β : Type} [FileSystem σ] {s s' : σ} {out out' : Stdout}

/-- The ways in which a program may go on files and output: to its result, or to nowhere if it is
stopped. -/
abbrev MayRun : ConsoleAction α → σ × Stdout → Option α → σ × Stdout → Prop :=
  Interaction.MayRun ConsoleCall.Goes ConsoleCall.Leaves

/-- Those in which it is seen whether there is something at a path. -/
abbrev MayRunSeeing : ConsoleAction α → σ × Stdout → Option α → σ × Stdout → Prop :=
  Interaction.MayRun (fun call s answer s' => call.Goes s answer s' ∧ call.Sees s answer)
    ConsoleCall.Leaves

/-- What holds of the files, and is kept by every call of the system, holds however a program goes. -/
theorem keeps {P : SystemCall → Prop} {I : σ → Prop} {x : ConsoleAction α} {r : Option α}
    (hkeep : ∀ (call : SystemCall) (s s' : σ), P call → call.MayLeave s s' → I s → I s')
    (hx : x.Within P) (h : MayRun x (s, out) r (s', out')) (hs : I s) : I s' := by
  refine Interaction.MayRun.keeps (I := fun s => I s.1) (fun call s₁ s₂ hcall hleave h₁ => ?_) hx h hs
  cases call with
  | system call =>
    refine hkeep call s₁.1 s₂.1 (hcall call rfl) ?_ h₁
    exact hleave.imp (·.1) fun ⟨answer, hgoes⟩ => ⟨answer, hgoes.1⟩
  | print text =>
    have hsame : s₂.1 = s₁.1 := hleave.elim (·.1) fun ⟨_, hgoes⟩ => hgoes.1
    rw [hsame]
    exact h₁

theorem eq_of_isReading {x : ConsoleAction α} {r : Option α} (h : MayRun x (s, out) r (s', out'))
    (hx : x.Within (·.isReading = true)) : s' = s :=
  keeps (I := (· = s)) (fun _ _ _ hcall hleave hsame => (hleave.eq_of_isReading hcall).trans hsame) hx h
    rfl

end ConsoleAction

/-! ## Runs on terminals -/

namespace Terminal

theorem print_cases (t : Terminal) (text : String) :
    (∃ u, t.print text = (.ok (), u) ∧ u.machine = t.machine ∧ u.output.text = t.output.text ++ text ∧
      (t.output.room = none → u.output.room = none)) ∨
    ∃ e u part, t.print text = (.error e, u) ∧ u.machine = t.machine ∧
      u.output.text = t.output.text ++ part ∧ t.output.room ≠ none := by
  rw [print, Output.write]
  cases hroom : t.output.room with
  | none => exact .inl ⟨_, rfl, rfl, rfl, fun _ => rfl⟩
  | some room =>
    dsimp only
    split
    · exact .inl ⟨_, rfl, rfl, rfl, nofun⟩
    · exact .inr ⟨_, _, _, rfl, rfl, rfl, nofun⟩

/-- A run on a terminal is one of the ways in which a program may go. Nothing is refused where there is
room for everything. -/
theorem mayRun_run {α : Type} (x : ConsoleAction α) (t : Terminal) (refused : Bool) :
    ∃ refused', ConsoleAction.MayRunSeeing x (t.machine.tree, ⟨t.output.text, refused⟩)
      (some (t.run x).1) ((t.run x).2.machine.tree, ⟨(t.run x).2.output.text, refused'⟩) ∧
      (t.output.room = none → refused' = refused) := by
  induction x generalizing t refused with
  | done a => exact ⟨refused, .done a _, fun _ => rfl⟩
  | ask call next ih =>
    cases call with
    | system call =>
      obtain ⟨refused', hrest, hroom⟩ := ih (t.machine.answer call).1
        { t with machine := (t.machine.answer call).2 } refused
      have hanswer := Tree.answer_eq call t.machine
      have hgoes : ConsoleCall.Goes (.system call) (t.machine.tree, ⟨t.output.text, refused⟩)
          (t.machine.answer call).1 ((t.machine.answer call).2.tree, ⟨t.output.text, refused⟩) :=
        ⟨.inl hanswer, rfl⟩
      have hsees : ConsoleCall.Sees (.system call) (t.machine.tree, ⟨t.output.text, refused⟩)
          (t.machine.answer call).1 := by
        cases call <;> trivial
      exact ⟨refused', .goes ⟨hgoes, hsees⟩ hrest, hroom⟩
    | print text =>
      have hrun : t.run (.ask (.print text) next) = (t.print text).2.run (next (t.print text).1) := rfl
      rw [hrun]
      rcases t.print_cases text with
        ⟨u, hprint, hmachine, htext, hroom⟩ | ⟨e, u, part, hprint, hmachine, htext, hsome⟩
      · have hgoes : ConsoleCall.Goes (.print text) (t.machine.tree, ⟨t.output.text, refused⟩)
            (.ok ()) (u.machine.tree, ⟨u.output.text, refused⟩) := by
          rw [hmachine, htext]
          exact ⟨rfl, .inl ⟨rfl, rfl⟩⟩
        rw [hprint]
        obtain ⟨refused', hrest, hroom'⟩ := ih (.ok ()) u refused
        exact ⟨refused', .goes ⟨hgoes, trivial⟩ hrest, fun hnone => hroom' (hroom hnone)⟩
      · have hgoes : ConsoleCall.Goes (.print text) (t.machine.tree, ⟨t.output.text, refused⟩)
            (.error e) (u.machine.tree, ⟨u.output.text, true⟩) := by
          rw [hmachine, htext]
          exact ⟨rfl, .inr ⟨e, part, rfl, rfl⟩⟩
        rw [hprint]
        obtain ⟨refused', hrest, -⟩ := ih (.error e) u true
        exact ⟨refused', .goes ⟨hgoes, trivial⟩ hrest, fun hnone => absurd hnone hsome⟩

end Terminal

end AnchorOutline
