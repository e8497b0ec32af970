/-!
# Programs that ask their surroundings

A program that needs something from outside asks a question and goes on with the answer, whatever
that is. It is finite: every sequence of answers leads to a result. Who answers is decided when
the program is run.

* `Interaction.run` : answers from a state, which every answer may change;
* `Interaction.interpret` : answers from any monad;
* `Interaction.run_bind` : one program after the other runs on the state that the first leaves.
-/

namespace AnchorOutline

/-- A program that asks questions, each with its own type of answers. -/
inductive Interaction (Question : Type) (Answer : Question → Type) (α : Type) where
  | done (result : α)
  | ask (question : Question) (next : Answer question → Interaction Question Answer α)

namespace Interaction

variable {Question : Type} {Answer : Question → Type} {α β σ : Type}

/-- Goes on with another program when the first is done. -/
def bind : Interaction Question Answer α → (α → Interaction Question Answer β) →
    Interaction Question Answer β
  | done a, f => f a
  | ask q next, f => ask q fun answer => bind (next answer) f

instance : Monad (Interaction Question Answer) where
  pure := done
  bind := bind

def query (q : Question) : Interaction Question Answer (Answer q) := ask q done

def run (handle : (q : Question) → σ → Answer q × σ) : Interaction Question Answer α → σ → α × σ
  | done a, s => (a, s)
  | ask q next, s =>
    let (answer, s) := handle q s
    run handle (next answer) s

def interpret {m : Type → Type} [Monad m] (handle : (q : Question) → m (Answer q)) :
    Interaction Question Answer α → m α
  | done a => pure a
  | ask q next => do
    let answer ← handle q
    interpret handle (next answer)

/-! ## Laws -/

@[simp] theorem run_pure (handle : (q : Question) → σ → Answer q × σ) (a : α) (s : σ) :
    (pure a : Interaction Question Answer α).run handle s = (a, s) := rfl

@[simp] theorem run_query (handle : (q : Question) → σ → Answer q × σ) (q : Question) (s : σ) :
    (query q).run handle s = handle q s := rfl

theorem run_bind (handle : (q : Question) → σ → Answer q × σ)
    (x : Interaction Question Answer α) (f : α → Interaction Question Answer β) (s : σ) :
    (x >>= f).run handle s = (f (x.run handle s).1).run handle (x.run handle s).2 := by
  induction x generalizing s with
  | done a => rfl
  | ask q next ih => exact ih (handle q s).1 (handle q s).2

end Interaction

end AnchorOutline
