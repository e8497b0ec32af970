import AnchorOutline.Proofs.Files.Locality

/-!
# Calls that fail and programs that stop

A call may fail for any reason, and a program may be stopped at any moment, also in the middle of a
call. What was begun then stays as it is. Moving a file is done as a whole or not at all. All this is
said of any file system, and then of trees.

* `FileSystem` : what calls come to where nothing fails;
* `SystemCall.Leaves` : what a call that does not come to its end may leave;
* `SystemCall.Goes` : the answers that a call may get, and what it does to the files then;
* `SystemCall.Reaches`, `FileSystem.Changes` : calls that change some files only, and what comes of them;
* `Action.MayRun` : the ways in which a program may go, to its end or to where it is stopped;
* `Action.mayRun_run` : a run without failures is one of these ways.
-/

namespace AnchorOutline

/-! ## File systems -/

/-- A kind of states in which files may be. Calls that only read change nothing. -/
class FileSystem (σ : Type) where
  /-- What a call comes to where nothing fails. -/
  answer : (call : SystemCall) → σ → call.Answer × σ
  /-- What is there when making directories has come some way. -/
  Growing : Path → σ → σ → Prop
  answer_of_isReading : ∀ {call : SystemCall}, call.isReading = true → ∀ s, (answer call s).2 = s
  growing_createDirs : ∀ p s, Growing p s (answer (.createDirs p) s).2

namespace FileSystem

variable {σ : Type} {s s' : σ}

/-- What a call comes to that is done as a whole or not at all. -/
def settled (s : σ) : Except FileError σ → Except FileError Unit × σ
  | .ok s' => (.ok (), s')
  | .error e => (.error e, s)

/-- What making directories comes to, which keeps those that were made before a failure. -/
def made : Except (FileError × σ) σ → Except FileError Unit × σ
  | .ok s => (.ok (), s)
  | .error (e, s) => (.error e, s)

theorem settled_eq_ok {done : Except FileError σ} : settled s done = (.ok (), s') ↔ done = .ok s' := by
  cases done <;> simp [settled]

theorem of_settled {done : Except FileError σ} {answer : Except FileError Unit}
    (h : settled s done = (answer, s')) :
    (answer = .ok () ∧ done = .ok s') ∨ ∃ e, answer = .error e ∧ s' = s := by
  cases done with
  | ok s₁ =>
    cases h
    exact .inl ⟨rfl, rfl⟩
  | error e =>
    cases h
    exact .inr ⟨e, rfl, rfl⟩

theorem snd_made (made? : Except (FileError × σ) σ) : (made made?).2 = madeOf made? := by
  cases made? <;> rfl

end FileSystem

open FileSystem in
/-- What a tree says to a call, and how the call leaves it. -/
def Tree.answer : (call : SystemCall) → Tree → call.Answer × Tree
  | .read p, t => (t.read p, t)
  | .isPresent p, t => (t.isPresent p, t)
  | .createDirs p, t => made (t.createDirs p)
  | .write p bytes, t => settled t (t.write p bytes)
  | .rename source target, t => settled t (t.rename source target)
  | .remove p, t => settled t (t.remove p)
  | .log _, t => ((), t)

theorem Tree.answer_eq (call : SystemCall) (m : Machine) :
    m.tree.answer call = ((m.answer call).1, (m.answer call).2.tree) := by
  cases call with
  | createDirs p =>
    rw [answer, Machine.answer.eq_def]
    dsimp only
    cases m.tree.createDirs p <;> rfl
  | write p bytes =>
    rw [answer, Machine.answer]
    cases m.tree.write p bytes <;> rfl
  | rename source target =>
    rw [answer, Machine.answer]
    cases m.tree.rename source target <;> rfl
  | remove p =>
    rw [answer, Machine.answer]
    cases m.tree.remove p <;> rfl
  | _ => rfl

instance : FileSystem Tree where
  answer := Tree.answer
  Growing p t t' := t.Grown (· ∈ p.places) t'
  answer_of_isReading {call} h t := by
    obtain ⟨p, rfl⟩ | ⟨p, rfl⟩ | ⟨record, rfl⟩ := SystemCall.cases_of_isReading h <;> rfl
  growing_createDirs p t := by
    have hmade := Tree.grown_createDirs t p
    rwa [← FileSystem.snd_made] at hmade

namespace SystemCall

variable {σ : Type} [FileSystem σ]

/-- What a call that does not come to its end may make of the files: some directories on the way, a part
of a file, and all or nothing where a file is moved or removed. -/
def Leaves : SystemCall → σ → σ → Prop
  | read _, s, s' | isPresent _, s, s' | log _, s, s' => s' = s
  | createDirs p, s, s' => FileSystem.Growing p s s'
  | write p bytes, s, s' =>
    s' = s ∨ ∃ n, FileSystem.answer (.write p (bytes.extract 0 n)) s = (Except.ok (), s')
  | rename source target, s, s' =>
    s' = s ∨ FileSystem.answer (.rename source target) s = (Except.ok (), s')
  | remove p, s, s' => s' = s ∨ FileSystem.answer (.remove p) s = (Except.ok (), s')

/-- The answers of a call that fails for some reason of the system, and what it may leave. That there
is no file is not said of a file that is there, and what could not be moved is where it was. -/
def Fails : (call : SystemCall) → σ → call.Answer → σ → Prop
  | read _, s, answer, s' => s' = s ∧ ∃ e, e ≠ .notFound ∧ answer = .error e
  | isPresent _, s, answer, s' => s' = s ∧ answer = false
  | createDirs p, s, answer, s' => (createDirs p).Leaves s s' ∧ ∃ e, answer = .error e
  | write p bytes, s, answer, s' => (write p bytes).Leaves s s' ∧ ∃ e, answer = .error e
  | rename .., s, answer, s' => s' = s ∧ ∃ e, answer = .error e
  | remove p, s, answer, s' => (remove p).Leaves s s' ∧ ∃ e, answer = .error e
  | log _, _, _, _ => False

/-- The answers that a call may get, and the files then: as the file system has it, or a failure. -/
def Goes (call : SystemCall) (s : σ) (answer : call.Answer) (s' : σ) : Prop :=
  FileSystem.answer call s = (answer, s') ∨ call.Fails s answer s'

/-- What a call may make of the files, whether or not it comes to its end. -/
def MayLeave (call : SystemCall) (s s' : σ) : Prop :=
  call.Leaves s s' ∨ ∃ answer, call.Goes s answer s'

/-- The calls that change nothing but some files, and make no directories but those above a path. -/
def Reaches (files : List Path) (p : Path) : SystemCall → Prop
  | createDirs parent => p.parent? = some parent
  | write q _ | remove q => q ∈ files
  | rename source target => source ∈ files ∧ target ∈ files
  | read _ | isPresent _ | log _ => True

variable {s s' : σ} {call : SystemCall}

theorem Leaves.eq_of_isReading (h : call.Leaves s s') (hreading : call.isReading = true) : s' = s := by
  obtain ⟨p, rfl⟩ | ⟨p, rfl⟩ | ⟨record, rfl⟩ := cases_of_isReading hreading <;> exact h

theorem Fails.leaves {answer : call.Answer} (h : call.Fails s answer s') : call.Leaves s s' := by
  cases call with
  | rename source target => exact .inl h.1
  | log record => cases h
  | _ => exact h.1

theorem MayLeave.eq_of_isReading (h : call.MayLeave s s') (hreading : call.isReading = true) :
    s' = s := by
  rcases h with hleaves | ⟨answer, hanswer | hfails⟩
  · exact hleaves.eq_of_isReading hreading
  · rw [← FileSystem.answer_of_isReading hreading s, hanswer]
  · exact hfails.leaves.eq_of_isReading hreading

theorem MayLeave.growing {p : Path} (h : (createDirs p).MayLeave s s') :
    FileSystem.Growing p s s' := by
  rcases h with hleaves | ⟨answer, hanswer | hfails⟩
  · exact hleaves
  · have hgrowing := FileSystem.growing_createDirs p s
    rwa [hanswer] at hgrowing
  · exact hfails.leaves

end SystemCall

namespace Action

variable {σ α : Type} [FileSystem σ] {s s' : σ}

/-- The ways in which a program may go on files: to its result, or to nowhere if it is stopped. -/
abbrev MayRun : Action α → σ → Option α → σ → Prop :=
  Interaction.MayRun SystemCall.Goes SystemCall.Leaves

theorem mayRun_run (x : Action α) (m : Machine) :
    MayRun x m.tree (some (m.run x).1) (m.run x).2.tree := by
  induction x generalizing m with
  | done a => exact .done a m.tree
  | ask call next ih =>
    exact .goes (.inl (Tree.answer_eq call m)) (ih _ _)

theorem eq_of_isReading {x : Action α} {r : Option α} (h : MayRun x s r s')
    (hx : x.AsksOnly (·.isReading = true)) : s' = s := by
  refine h.keeps (I := (· = s)) (fun call s₁ s₂ hcall hleave hsame => ?_) hx rfl
  exact (SystemCall.MayLeave.eq_of_isReading hleave hcall).trans hsame

end Action

/-! ## Calls on trees -/

namespace SystemCall

open FileSystem

variable {t t' : Tree}

theorem Goes.createDirs {p : Path} {answer : Except FileError Unit}
    (h : (createDirs p).Goes t answer t') : t.Grown (· ∈ p.places) t' :=
  MayLeave.growing (.inr ⟨answer, h⟩)

theorem Goes.createDirs_eq_ok {p : Path} (h : (SystemCall.createDirs p).Goes t (.ok ()) t') :
    t.createDirs p = .ok t' := by
  rcases h with h | ⟨-, e, he⟩
  · change made (t.createDirs p) = (.ok (), t') at h
    cases hdone : t.createDirs p with
    | ok t₁ =>
      rw [hdone] at h
      cases h
      rfl
    | error r =>
      rw [hdone] at h
      cases h
  · cases he

theorem Goes.write {p : Path} {bytes : ByteArray} {answer : Except FileError Unit}
    (h : (write p bytes).Goes t answer t') :
    (answer = .ok () ∧ t.write p bytes = .ok t') ∨
      (∃ e, answer = .error e) ∧ (write p bytes).Leaves t t' := by
  rcases h with h | ⟨h, he⟩
  · exact (of_settled h).imp_right fun ⟨e, he, hsame⟩ => ⟨⟨e, he⟩, .inl hsame⟩
  · exact .inr ⟨he, h⟩

theorem Goes.rename {source target : Path} {answer : Except FileError Unit}
    (h : (rename source target).Goes t answer t') :
    (answer = .ok () ∧ t.rename source target = .ok t') ∨ (∃ e, answer = .error e) ∧ t' = t := by
  rcases h with h | ⟨hsame, he⟩
  · exact (of_settled h).imp_right fun ⟨e, he, hsame⟩ => ⟨⟨e, he⟩, hsame⟩
  · exact .inr ⟨he, hsame⟩

theorem Goes.remove {p : Path} {answer : Except FileError Unit}
    (h : (remove p).Goes t answer t') : (remove p).Leaves t t' := by
  rcases h with h | ⟨h, -⟩
  · rcases of_settled h with ⟨rfl, -⟩ | ⟨e, -, hsame⟩
    · exact .inr h
    · exact .inl hsame
  · exact h

theorem Goes.read {p : Path} {answer : Except FileError ByteArray}
    (h : (read p).Goes t answer t') :
    t' = t ∧ (answer = t.read p ∨ ∃ e, e ≠ .notFound ∧ answer = .error e) := by
  rcases h with h | ⟨hsame, he⟩
  · cases h
    exact ⟨rfl, .inl rfl⟩
  · exact ⟨hsame, .inr he⟩

theorem Goes.log {record : LogRecord} {answer : Unit} (h : (log record).Goes t answer t') :
    t' = t := by
  rcases h with h | h
  · cases h
    rfl
  · cases h

theorem leaves_write {p : Path} {bytes : ByteArray} : (write p bytes).Leaves t t' ↔
    t' = t ∨ ∃ n, t.write p (bytes.extract 0 n) = .ok t' :=
  or_congr_right (exists_congr fun _ => settled_eq_ok)

theorem leaves_rename {source target : Path} : (rename source target).Leaves t t' ↔
    t' = t ∨ t.rename source target = .ok t' :=
  or_congr_right settled_eq_ok

theorem leaves_remove {p : Path} : (remove p).Leaves t t' ↔ t' = t ∨ t.remove p = .ok t' :=
  or_congr_right settled_eq_ok

theorem Leaves.edited {call : SystemCall} (h : call.Leaves t t') :
    t.Edited (· ∈ call.places) t' := by
  cases call with
  | read p => exact h ▸ .refl _ t'
  | isPresent p => exact h ▸ .refl _ t'
  | log record => exact h ▸ .refl _ t'
  | createDirs p => exact Tree.Grown.edited h
  | write p bytes =>
    rcases leaves_write.mp h with rfl | ⟨n, hwritten⟩
    · exact .refl _ _
    · exact Tree.edited_write hwritten
  | rename source target =>
    rcases leaves_rename.mp h with rfl | hmoved
    · exact .refl _ _
    · exact (Tree.edited_rename hmoved).mono fun q hq => List.mem_append.mpr hq
  | remove p =>
    rcases leaves_remove.mp h with rfl | hremoved
    · exact .refl _ _
    · exact Tree.edited_remove hremoved

/-- Whatever a call comes to, it changes nothing but the places that it has to do with. -/
theorem MayLeave.edited {call : SystemCall} (h : call.MayLeave t t') :
    t.Edited (· ∈ call.places) t' := by
  rcases h with hleaves | ⟨answer, hanswer | hfails⟩
  · exact hleaves.edited
  · have hedited := Machine.answer_edited call ⟨t, []⟩
    change t.answer call = (answer, t') at hanswer
    rw [Tree.answer_eq call ⟨t, []⟩] at hanswer
    cases hanswer
    exact hedited
  · exact hfails.leaves.edited

end SystemCall

end AnchorOutline
