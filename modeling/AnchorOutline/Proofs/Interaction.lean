import AnchorOutline.Interaction
import Mathlib

/-!
# What holds however a program is answered

Whoever answers a program, each question that it asks gets some answer. A condition that the
questions with their answers, and the result, fulfil for all answers holds for every run.

* `Exchange` : a question with the answer that it got;
* `Interaction.Ensures` : a condition on exchanges and result that holds whatever the answers;
* `Interaction.ensures_bind` : one program after the other;
* `Interaction.transcript` : the exchanges of a run, which fulfil what the program ensures;
* `Interaction.AsksOnly` : a condition on all questions that may be asked;
* `Interaction.AsksWhile` : the same as long as the exchanges fulfil another condition;
* `Interaction.Leads` : what is left of a program after some exchanges;
* `Interaction.MayRun` : the ways in which a program may go, to its end or to where it is stopped;
* `Interaction.MayRun.of_bind` : one program after the other;
* `Interaction.MayRun.keeps` : what each question keeps, a program keeps however it goes.
-/

namespace AnchorOutline

abbrev Exchange (Question : Type) (Answer : Question → Type) := (q : Question) × Answer q

namespace Interaction

variable {Question : Type} {Answer : Question → Type} {α β σ : Type}

/-- Whatever the answers, the exchanges and the result fulfil a condition. -/
def Ensures : Interaction Question Answer α → (List (Exchange Question Answer) → α → Prop) → Prop
  | done a, P => P [] a
  | ask q next, P => ∀ answer, (next answer).Ensures fun t => P (⟨q, answer⟩ :: t)

@[simp] theorem ensures_pure {a : α} {P : List (Exchange Question Answer) → α → Prop} :
    (pure a : Interaction Question Answer α).Ensures P ↔ P [] a := Iff.rfl

theorem Ensures.mono {x : Interaction Question Answer α}
    {P R : List (Exchange Question Answer) → α → Prop} (h : x.Ensures P)
    (hPR : ∀ t a, P t a → R t a) : x.Ensures R := by
  induction x generalizing P R with
  | done a => exact hPR [] a h
  | ask q next ih => exact fun answer => ih answer (h answer) fun t a => hPR _ a

theorem Ensures.and {x : Interaction Question Answer α}
    {P R : List (Exchange Question Answer) → α → Prop} (hP : x.Ensures P) (hR : x.Ensures R) :
    x.Ensures fun t a => P t a ∧ R t a := by
  induction x generalizing P R with
  | done a => exact ⟨hP, hR⟩
  | ask q next ih => exact fun answer => ih answer (hP answer) (hR answer)

theorem ensures_of_forall {P : List (Exchange Question Answer) → α → Prop} (h : ∀ t a, P t a)
    (x : Interaction Question Answer α) : x.Ensures P := by
  induction x generalizing P with
  | done a => exact h [] a
  | ask q next ih => exact fun answer => ih answer fun t a => h _ a

theorem ensures_bind {x : Interaction Question Answer α} {f : α → Interaction Question Answer β}
    {P : List (Exchange Question Answer) → β → Prop} :
    (x >>= f).Ensures P ↔ x.Ensures fun t a => (f a).Ensures fun u => P (t ++ u) := by
  induction x generalizing P with
  | done a => exact Iff.rfl
  | ask q next ih => exact forall_congr' fun answer => ih answer

/-! ## Runs -/

def transcript (handle : (q : Question) → σ → Answer q × σ) :
    Interaction Question Answer α → σ → List (Exchange Question Answer)
  | done _, _ => []
  | ask q next, s => ⟨q, (handle q s).1⟩ :: transcript handle (next (handle q s).1) (handle q s).2

theorem Ensures.transcript {x : Interaction Question Answer α}
    {P : List (Exchange Question Answer) → α → Prop} (h : x.Ensures P)
    (handle : (q : Question) → σ → Answer q × σ) (s : σ) :
    P (x.transcript handle s) (x.run handle s).1 := by
  induction x generalizing P s with
  | done a => exact h
  | ask q next ih => exact ih _ (h _) _

/-! ## Questions -/

/-- Whatever the answers, all questions fulfil a condition. -/
def AsksOnly (P : Question → Prop) : Interaction Question Answer α → Prop
  | done _ => True
  | ask q next => P q ∧ ∀ answer, (next answer).AsksOnly P

variable {P : Question → Prop}

theorem AsksOnly.bind {x : Interaction Question Answer α} {f : α → Interaction Question Answer β}
    (hx : x.AsksOnly P) (hf : ∀ a, (f a).AsksOnly P) : (x >>= f).AsksOnly P := by
  induction x with
  | done a => exact hf a
  | ask q next ih => exact ⟨hx.1, fun answer => ih answer (hx.2 answer)⟩

theorem AsksOnly.forIn {γ : Type} {f : γ → β → Interaction Question Answer (ForInStep β)}
    (hf : ∀ a b, (f a b).AsksOnly P) (xs : List γ) (b : β) :
    (ForIn.forIn xs b f).AsksOnly P := by
  induction xs generalizing b with
  | nil => trivial
  | cons a rest ih =>
    rw [List.forIn_cons]
    refine (hf a b).bind fun step => ?_
    cases step with
    | done b => trivial
    | yield b => exact ih b

theorem AsksOnly.foldlM {γ : Type} {f : β → γ → Interaction Question Answer β}
    (hf : ∀ b a, (f b a).AsksOnly P) (b : β) (xs : List γ) : (xs.foldlM f b).AsksOnly P := by
  induction xs generalizing b with
  | nil => trivial
  | cons a rest ih =>
    rw [List.foldlM_cons]
    exact (hf b a).bind ih

theorem AsksOnly.mono {R : Question → Prop} {x : Interaction Question Answer α}
    (hx : x.AsksOnly P) (hPR : ∀ q, P q → R q) : x.AsksOnly R := by
  induction x with
  | done a => trivial
  | ask q next ih => exact ⟨hPR q hx.1, fun answer => ih answer (hx.2 answer)⟩

/-- As long as the exchanges fulfil a condition, all questions fulfil another one. -/
def AsksWhile (R : Exchange Question Answer → Prop) (P : Question → Prop) :
    Interaction Question Answer α → Prop
  | done _ => True
  | ask q next => P q ∧ ∀ answer, R ⟨q, answer⟩ → (next answer).AsksWhile R P

variable {R : Exchange Question Answer → Prop}

theorem AsksWhile.mono {P' : Question → Prop} {x : Interaction Question Answer α}
    (hx : x.AsksWhile R P) (hPP' : ∀ q, P q → P' q) : x.AsksWhile R P' := by
  induction x with
  | done a => trivial
  | ask q next ih => exact ⟨hPP' q hx.1, fun answer hanswer => ih answer (hx.2 answer hanswer)⟩

theorem Ensures.exists_end [∀ q, Nonempty (Answer q)] {x : Interaction Question Answer α}
    {P : List (Exchange Question Answer) → α → Prop} (hx : x.Ensures P) : ∃ t a, P t a := by
  induction x generalizing P with
  | done a => exact ⟨[], a, hx⟩
  | ask q next ih =>
    obtain ⟨answer⟩ : Nonempty (Answer q) := inferInstance
    obtain ⟨t, a, hend⟩ := ih answer (hx answer)
    exact ⟨_, a, hend⟩

theorem Ensures.asksOnly [∀ q, Nonempty (Answer q)] {x : Interaction Question Answer α}
    (hx : x.Ensures fun t _ => ∀ e ∈ t, P e.1) : x.AsksOnly P := by
  induction x with
  | done a => trivial
  | ask q next ih =>
    refine ⟨?_, fun answer => ih answer ((hx answer).mono fun t _ ht e he => ?_)⟩
    · obtain ⟨answer⟩ : Nonempty (Answer q) := inferInstance
      obtain ⟨t, -, hend⟩ := (hx answer).exists_end
      exact hend ⟨q, answer⟩ List.mem_cons_self
    · exact ht e (List.mem_cons_of_mem _ he)

/-! ## On the way -/

/-- Some exchanges lead a program to another one, which is what is left of it then. -/
inductive Leads : Interaction Question Answer α → List (Exchange Question Answer) →
    Interaction Question Answer α → Prop
  | here (x : Interaction Question Answer α) : Leads x [] x
  | ask {q : Question} {next : Answer q → Interaction Question Answer α} {answer : Answer q}
      {t : List (Exchange Question Answer)} {y : Interaction Question Answer α}
      (rest : Leads (next answer) t y) : Leads (ask q next) (⟨q, answer⟩ :: t) y

variable {x y z : Interaction Question Answer α} {t u : List (Exchange Question Answer)}

theorem Leads.trans (h : x.Leads t y) (h' : y.Leads u z) : x.Leads (t ++ u) z := by
  induction h with
  | here x => exact h'
  | ask _ ih => exact .ask (ih h')

theorem Leads.eq_of_nil (h : x.Leads [] y) : x = y := by
  cases h
  rfl

/-- A program that some exchanges lead on begins with the question of the first one. -/
theorem Leads.exists_ask {e : Exchange Question Answer} (h : x.Leads (e :: t) y) :
    ∃ next, x = .ask e.1 next ∧ (next e.2).Leads t y := by
  cases h with
  | ask rest => exact ⟨_, rfl, rest⟩

/-- What a program ensures, what is left of it ensures for the exchanges before and after. -/
theorem Ensures.after {P : List (Exchange Question Answer) → α → Prop} (hx : x.Ensures P)
    (h : x.Leads t y) : y.Ensures fun u => P (t ++ u) := by
  induction h generalizing P with
  | here x => exact hx
  | @ask q next answer t y _ ih => exact ih (hx answer)

theorem AsksOnly.after (hx : x.AsksOnly P) (h : x.Leads t y) : y.AsksOnly P := by
  induction h with
  | here x => exact hx
  | @ask q next answer t y _ ih => exact ih (hx.2 answer)

theorem Leads.bind {x y : Interaction Question Answer α} {t : List (Exchange Question Answer)}
    (h : x.Leads t y) (f : α → Interaction Question Answer β) : (x >>= f).Leads t (y >>= f) := by
  induction h with
  | here x => exact .here _
  | ask _ ih => exact .ask ih

theorem Ensures.of_leads {P : List (Exchange Question Answer) → α → Prop} (hx : x.Ensures P) {a : α}
    (h : x.Leads t (.done a)) : P t a := by
  have hdone := hx.after h
  rwa [Ensures, List.append_nil] at hdone

theorem leads_transcript (handle : (q : Question) → σ → Answer q × σ)
    (x : Interaction Question Answer α) (s : σ) :
    x.Leads (x.transcript handle s) (.done (x.run handle s).1) := by
  induction x generalizing s with
  | done a => exact .here _
  | ask q next ih => exact .ask (ih _ _)

/-! ## Ways to go -/

/-- The ways in which a program may go from a state: to its result, or to nowhere if it is stopped.
`Goes` says what a question may be answered and what is then, `Leaves` what may be left where a program
is stopped at a question. -/
inductive MayRun (Goes : (q : Question) → σ → Answer q → σ → Prop) (Leaves : Question → σ → σ → Prop) :
    Interaction Question Answer α → σ → Option α → σ → Prop
  | done (a : α) (s : σ) : MayRun Goes Leaves (.done a) s (some a) s
  | stopped {q : Question} {next : Answer q → Interaction Question Answer α} {s s' : σ}
      (leaves : Leaves q s s') : MayRun Goes Leaves (.ask q next) s none s'
  | goes {q : Question} {next : Answer q → Interaction Question Answer α} {s s' s'' : σ} {r : Option α}
      {answer : Answer q} (first : Goes q s answer s') (rest : MayRun Goes Leaves (next answer) s' r s'') :
      MayRun Goes Leaves (.ask q next) s r s''

section MayRun

variable {Goes : (q : Question) → σ → Answer q → σ → Prop} {Leaves : Question → σ → σ → Prop}
  {s s' s'' : σ}

theorem MayRun.mono {Goes' : (q : Question) → σ → Answer q → σ → Prop} {x : Interaction Question Answer α}
    {r : Option α} (hgoes : ∀ q s a s', Goes q s a s' → Goes' q s a s')
    (h : MayRun Goes Leaves x s r s') : MayRun Goes' Leaves x s r s' := by
  induction h with
  | done a s => exact .done a s
  | stopped leaves => exact .stopped leaves
  | goes first _ ih => exact .goes (hgoes _ _ _ _ first) ih

/-- A program in two parts goes through both, or is stopped in the first. -/
theorem MayRun.of_bind {x : Interaction Question Answer α} {f : α → Interaction Question Answer β}
    {r : Option β} (h : MayRun Goes Leaves (x >>= f) s r s'') :
    (∃ a s', MayRun Goes Leaves x s (some a) s' ∧ MayRun Goes Leaves (f a) s' r s'') ∨
      r = none ∧ MayRun Goes Leaves x s none s'' := by
  induction x generalizing s with
  | done a => exact .inl ⟨a, s, .done a s, h⟩
  | ask q next ih =>
    cases h with
    | stopped leaves => exact .inr ⟨rfl, .stopped leaves⟩
    | goes first rest =>
      rcases ih _ rest with ⟨a, s', hx, hf⟩ | ⟨hr, hx⟩
      · exact .inl ⟨a, s', .goes first hx, hf⟩
      · exact .inr ⟨hr, .goes first hx⟩

theorem MayRun.bind {x : Interaction Question Answer α} {f : α → Interaction Question Answer β} {a : α}
    {r : Option β} (hx : MayRun Goes Leaves x s (some a) s') (hf : MayRun Goes Leaves (f a) s' r s'') :
    MayRun Goes Leaves (x >>= f) s r s'' := by
  generalize hresult : some a = result at hx
  induction hx with
  | done b s =>
    cases hresult
    exact hf
  | stopped leaves => cases hresult
  | goes first _ ih => exact .goes first (ih hf hresult)

theorem MayRun.bind_stopped {x : Interaction Question Answer α} (hx : MayRun Goes Leaves x s none s')
    (f : α → Interaction Question Answer β) : MayRun Goes Leaves (x >>= f) s none s' := by
  generalize hresult : none = result at hx
  induction hx with
  | done a s => cases hresult
  | stopped leaves => exact .stopped leaves
  | goes first _ ih => exact .goes first (ih hresult)

theorem MayRun.of_pure {a : α} {r : Option α} (h : MayRun Goes Leaves (pure a) s r s') :
    r = some a ∧ s' = s := by
  cases h
  exact ⟨rfl, rfl⟩

theorem MayRun.of_map {x : Interaction Question Answer α} {f : α → β} {r : Option β}
    (h : MayRun Goes Leaves (x >>= fun a => pure (f a)) s r s') :
    ∃ r', MayRun Goes Leaves x s r' s' ∧ r = r'.map f := by
  rcases h.of_bind with ⟨a, s₁, hx, hlast⟩ | ⟨rfl, hx⟩
  · obtain ⟨rfl, rfl⟩ := hlast.of_pure
    exact ⟨some a, hx, rfl⟩
  · exact ⟨none, hx, rfl⟩

theorem MayRun.of_query {q : Question} {r : Option (Answer q)}
    (h : MayRun Goes Leaves (.ask q .done) s r s') :
    (∃ answer, r = some answer ∧ Goes q s answer s') ∨ r = none ∧ Leaves q s s' := by
  cases h with
  | stopped leaves => exact .inr ⟨rfl, leaves⟩
  | goes first rest =>
    cases rest
    exact .inl ⟨_, rfl, first⟩

/-- What holds of a state, and is kept by every question that a program may ask, holds wherever the
program is stopped and when it is done. -/
theorem MayRun.keeps {P : Question → Prop} {I : σ → Prop} {x : Interaction Question Answer α}
    {r : Option α}
    (hkeep : ∀ q s s', P q → (Leaves q s s' ∨ ∃ answer, Goes q s answer s') → I s → I s')
    (hx : x.AsksOnly P) (h : MayRun Goes Leaves x s r s') (hs : I s) : I s' := by
  induction h with
  | done a s => exact hs
  | stopped leaves => exact hkeep _ _ _ hx.1 (.inl leaves) hs
  | goes first _ ih => exact ih (hx.2 _) (hkeep _ _ _ hx.1 (.inr ⟨_, first⟩) hs)

/-- A run by answers that a state may give is one of the ways. -/
theorem mayRun_run {handle : (q : Question) → σ → Answer q × σ}
    (hgoes : ∀ q s, Goes q s (handle q s).1 (handle q s).2) (x : Interaction Question Answer α) (s : σ) :
    MayRun Goes Leaves x s (some (x.run handle s).1) (x.run handle s).2 := by
  induction x generalizing s with
  | done a => exact .done a s
  | ask q next ih => exact .goes (hgoes q s) (ih _ _)

end MayRun

end Interaction

end AnchorOutline
