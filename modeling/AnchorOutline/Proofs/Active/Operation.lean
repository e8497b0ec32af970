import AnchorOutline.Active.Run
import AnchorOutline.Proofs.Interaction
import AnchorOutline.Session.Command

/-!
# The course of an operation

Every operation first asks and then acts, and it acts in one of two ways: it makes a list of
patterns the active one, or it puts them into the store. Whatever it does otherwise, it leaves
everything as it is.

* `Talk` : a question of a dialogue with the answer that it got;
* `events` : what others see of exchanges;
* `Controller.Chooses` : the answers that lead to new active patterns, and these patterns;
* `Controller.Course`, `Controller.ensures_operation` : to show something of all that an operation
  may come to, it is enough to show it of three cases.
-/

namespace AnchorOutline

/-! ## Exchanges and events -/

/-- A question of a dialogue with the answer that it got. -/
abbrev Talk := Exchange Question Question.Answer

namespace Talk

def prompt (p : Prompt) (reply : Except HostFailure Reply) : Talk := ⟨.prompt p, reply⟩

def getSets (result : Except StoreError (List PatternSet)) : Talk := ⟨.getSets, result⟩

def putSets (sets : List PatternSet) (result : Except StoreError Unit) : Talk :=
  ⟨.putSets sets, result⟩

def note (n : Note) : Talk := ⟨.note n, ()⟩

def log (record : LogRecord) : Talk := note (.log record)

def check (holds : Bool) : Talk := ⟨.check holds, ()⟩

def event? : Talk → Option Event
  | ⟨.prompt p, _⟩ => some (.prompted p)
  | ⟨.getSets, _⟩ => none
  | ⟨.putSets sets, result⟩ => if Except.isOk result then some (.saved sets) else none
  | ⟨.note n, _⟩ => some (.noted n)
  | ⟨.check holds, _⟩ => some (.checked holds)

def isPrompt : Talk → Bool
  | ⟨.prompt _, _⟩ => true
  | _ => false

/-- Whether an exchange only asks: a prompt, reading the store, or a log record. -/
def isAsking : Talk → Bool
  | ⟨.prompt _, _⟩ | ⟨.getSets, _⟩ | ⟨.note (.log _), _⟩ => true
  | _ => false

/-- Whether an exchange has to do with providers or subscriptions, or is a log record. -/
def isTelling : Talk → Bool
  | ⟨.note _, _⟩ | ⟨.check _, _⟩ => true
  | _ => false

/-- Whether an exchange registers or disposes something, or is an attempt to write to the store. -/
def isAct : Talk → Bool
  | ⟨.putSets _, _⟩ | ⟨.note (.registered ..), _⟩ | ⟨.note (.disposed _), _⟩
  | ⟨.note (.disposedBaseline _), _⟩ => true
  | _ => false

end Talk

/-- What others see of exchanges. -/
def events (t : List Talk) : List Event := t.filterMap Talk.event?

@[simp] theorem events_nil : events [] = [] := rfl

@[simp] theorem events_append (t u : List Talk) : events (t ++ u) = events t ++ events u :=
  List.filterMap_append

@[simp] theorem events_prompt (p : Prompt) (r : Except HostFailure Reply) (t : List Talk) :
    events (.prompt p r :: t) = .prompted p :: events t := rfl

@[simp] theorem events_getSets (r : Except StoreError (List PatternSet)) (t : List Talk) :
    events (.getSets r :: t) = events t := rfl

@[simp] theorem events_putSets_ok (sets : List PatternSet) (t : List Talk) :
    events (.putSets sets (.ok ()) :: t) = .saved sets :: events t := rfl

@[simp] theorem events_putSets_error (sets : List PatternSet) (e : StoreError) (t : List Talk) :
    events (.putSets sets (.error e) :: t) = events t := rfl

@[simp] theorem events_note (n : Note) (t : List Talk) :
    events (.note n :: t) = .noted n :: events t := rfl

@[simp] theorem events_log (r : LogRecord) (t : List Talk) :
    events (.log r :: t) = .noted (.log r) :: events t := rfl

@[simp] theorem events_check (b : Bool) (t : List Talk) :
    events (.check b :: t) = .checked b :: events t := rfl

namespace Event

/-- Whether something is different after an event: the table of providers, what is subscribed to,
or what is saved. -/
def isChange : Event → Bool
  | saved _ | noted (.registered ..) | noted (.disposed _) | noted (.disposedBaseline _) => true
  | prompted _ | noted (.log _) | checked _ => false

def isAsking : Event → Bool
  | prompted _ | noted (.log _) => true
  | _ => false

end Event

/-! ## Asking -/

def Asks (t : List Talk) : Prop := ∀ x ∈ t, x.isAsking = true

@[simp] theorem asks_nil : Asks [] := by simp [Asks]

@[simp] theorem asks_append {t u : List Talk} : Asks (t ++ u) ↔ Asks t ∧ Asks u := by
  simp [Asks, or_imp, forall_and]

@[simp] theorem asks_prompt {p : Prompt} {r : Except HostFailure Reply} {t : List Talk} :
    Asks (.prompt p r :: t) ↔ Asks t := by simp [Asks, Talk.isAsking, Talk.prompt]

@[simp] theorem asks_getSets {r : Except StoreError (List PatternSet)} {t : List Talk} :
    Asks (.getSets r :: t) ↔ Asks t := by simp [Asks, Talk.isAsking, Talk.getSets]

@[simp] theorem asks_log {r : LogRecord} {t : List Talk} : Asks (.log r :: t) ↔ Asks t := by
  simp [Asks, Talk.isAsking, Talk.log, Talk.note]

theorem Asks.isAct {t : List Talk} (h : Asks t) : ∀ x ∈ t, x.isAct = false := by
  rintro ⟨q, answer⟩ hx
  have hasking := h _ hx
  cases q with
  | prompt p => rfl
  | getSets => rfl
  | putSets sets => cases hasking
  | check holds => rfl
  | note n => cases n <;> first | rfl | cases hasking

theorem Asks.isAsking {t : List Talk} (h : Asks t) : ∀ e ∈ events t, e.isAsking = true := by
  intro e he
  obtain ⟨⟨q, answer⟩, hx, hevent⟩ := List.mem_filterMap.mp he
  have hasking := h _ hx
  cases q with
  | prompt p => cases hevent; rfl
  | getSets => cases hevent
  | putSets sets => cases hasking
  | check holds => cases hasking
  | note n =>
    cases hevent
    cases n <;> first | rfl | cases hasking

theorem Asks.isChange {t : List Talk} (h : Asks t) : ∀ e ∈ events t, e.isChange = false := by
  intro e he
  have hasking := h.isAsking e he
  cases e with
  | prompted p => rfl
  | saved sets => cases hasking
  | checked b => cases hasking
  | noted n => cases n <;> first | rfl | cases hasking

theorem not_saved_of_isChange {t : List Talk} (h : ∀ e ∈ events t, e.isChange = false)
    (sets : List PatternSet) : .saved sets ∉ events t :=
  fun hmem => by cases h _ hmem

/-! ## Telling -/

theorem ensures_note {n : Note} {P : List Talk → Unit → Prop} :
    (Dialogue.note n).Ensures P ↔ P [.note n] () :=
  ⟨fun h => h (), fun h _ => h⟩

theorem ensures_log {level : Level} {target message : String} {P : List Talk → Unit → Prop} :
    (Dialogue.log level target message).Ensures P ↔ P [.log ⟨level, target, message⟩] () :=
  ensures_note

theorem ensures_check {holds : Bool} {P : List Talk → Unit → Prop} :
    (Dialogue.check holds).Ensures P ↔ P [.check holds] () :=
  ⟨fun h => h (), fun h _ => h⟩

/-! ## Questions of a controller -/

namespace Controller

/-- What an answer to a prompt for a text means. -/
def textOf : Except HostFailure Reply → Except OperationError (Option String)
  | .ok (.submitted answer) => .ok (some answer)
  | .ok .cancelled => .ok none
  | .error e => .error (.host e)

/-- What an answer to a prompt for a choice means. -/
def choiceOf : Except HostFailure Reply → Except OperationError (Option String)
  | .ok (.submitted answer) => .ok (if answer.isEmpty then none else some answer)
  | .ok .cancelled => .ok none
  | .error e => .error (.host e)

variable {c : Controller}

theorem ensures_askText {placeholder : String} {prefill : Option String}
    {P : List Talk → Except OperationError (Option String) → Prop} :
    (askText placeholder prefill).Ensures P ↔
      ∀ r, P [.prompt (.text (some placeholder) prefill) r] (textOf r) := by
  refine forall_congr' fun r => ?_
  rcases r with e | (answer | _) <;> exact Iff.rfl

theorem ensures_askChoice {options : List String} {placeholder : String}
    {P : List Talk → Except OperationError (Option String) → Prop} :
    (askChoice options placeholder).Ensures P ↔
      ∀ r, P [.prompt (.choice options (some placeholder)) r] (choiceOf r) := by
  refine forall_congr' fun r => ?_
  rcases r with e | (answer | _) <;> exact Iff.rfl

theorem ensures_askSets {P : List Talk → Except OperationError (List PatternSet) → Prop} :
    askSets.Ensures P ↔ ∀ r, P [.getSets r] (r.mapError .store) := Iff.rfl

theorem ensures_writeSets {sets : List PatternSet}
    {P : List Talk → Except OperationError Unit → Prop} :
    (writeSets sets).Ensures P ↔ ∀ r, P [.putSets sets r] (r.mapError .store) := Iff.rfl

theorem ensures_remark {level : Level} {message : String} {P : List Talk → Unit → Prop} :
    (remark level message).Ensures P ↔ P [.log ⟨level, logTarget, message⟩] () :=
  ensures_log

theorem ensures_leave {outcome : Outcome} {reason : String}
    {P : List Talk → Except OperationError Outcome × Controller → Prop} :
    (c.leave outcome reason).Ensures P ↔ P [.log ⟨.debug, logTarget, reason⟩] (.ok outcome, c) := by
  rw [leave, Interaction.ensures_bind, ensures_remark]
  exact Iff.rfl

theorem ensures_abandon {e : OperationError}
    {P : List Talk → Except OperationError Outcome × Controller → Prop} :
    (c.abandon e).Ensures P ↔ P [] (.error e, c) := Iff.rfl

theorem ensures_apply {patterns : List String}
    {P : List Talk → Except OperationError Outcome × Controller → Prop} :
    (c.apply patterns).Ensures P ↔ (c.activate patterns).Ensures fun t c' => P t (.ok .applied, c') := by
  simp only [apply, Interaction.ensures_bind, Interaction.ensures_pure, List.append_nil]

/-! ## The three ends of an operation -/

/-- The exchanges that lead an operation to new active patterns, and these patterns. -/
inductive Chooses (c : Controller) : SetCommand → List Talk → List String → Prop
  | define (pattern : String) : c.Chooses .new
      [.prompt (.text (some "Pattern for a new set") none) (.ok (.submitted pattern))]
      (if pattern.isEmpty then [] else [pattern])
  | add (pattern : String) (nonempty : pattern ≠ "") : c.Chooses .add
      [.prompt (.text (some "Pattern to add") none) (.ok (.submitted pattern))]
      (c.current ++ [pattern])
  | remove (target : String) (record : LogRecord) (mem : target ∈ c.current)
      (nonempty : target ≠ "") : c.Chooses .fix
      [.prompt (.choice c.current (some "Pattern to fix")) (.ok (.submitted target)),
        .prompt (.text (some "Replacement (empty removes)") (some target)) (.ok (.submitted "")),
        .log record]
      (c.current.erase target)
  | replace (target replacement : String) (record : LogRecord) (mem : target ∈ c.current)
      (nonempty : target ≠ "") (nonemptyReplacement : replacement ≠ "") : c.Chooses .fix
      [.prompt (.choice c.current (some "Pattern to fix")) (.ok (.submitted target)),
        .prompt (.text (some "Replacement (empty removes)") (some target))
          (.ok (.submitted replacement)),
        .log record]
      (c.current.replace target replacement)
  | load (sets : List PatternSet) (id : String) (set : PatternSet) (record : LogRecord)
      (found : PatternSet.find? sets id = some set) (nonempty : id ≠ "") : c.Chooses .load
      [.getSets (.ok sets),
        .prompt (.choice (sets.map PatternSet.id) (some "Pattern set to load")) (.ok (.submitted id)),
        .log record]
      set.texts

theorem Chooses.asks {command : SetCommand} {t : List Talk} {patterns : List String}
    (h : c.Chooses command t patterns) : Asks t := by
  cases h <;> simp

/-- The exchanges of an operation that saves the active patterns. -/
inductive Saves (c : Controller) : List Talk → Prop
  | intro (id : String) (sets : List PatternSet) (record : LogRecord) (active : c.current ≠ [])
      (nonempty : id ≠ "") : c.Saves
      [.prompt (.text (some "Name for this pattern set") none) (.ok (.submitted id)),
        .getSets (.ok sets),
        .putSets (PatternSet.upsert sets (.ofPatterns id c.current)) (.ok ()),
        .log record]

/-- The exchanges of an operation that tries to save the active patterns where the store refuses. -/
inductive Refused (c : Controller) : List Talk → StoreError → Prop
  | intro (id : String) (sets : List PatternSet) (e : StoreError) : c.Refused
      [.prompt (.text (some "Name for this pattern set") none) (.ok (.submitted id)),
        .getSets (.ok sets),
        .putSets (PatternSet.upsert sets (.ofPatterns id c.current)) (.error e)]
      e

/-- What has to be shown of an operation to have it of all that the operation may come to. -/
structure Course (c : Controller) (command : SetCommand)
    (P : List Talk → Except OperationError Outcome × Controller → Prop) : Prop where
  /-- It asks and leaves everything as it is. Where there is nothing to do, it shows no prompt. -/
  unchanged : ∀ t result, Asks t → result ≠ .ok .applied →
    (result = .ok .skipped → ∀ x ∈ t, x.isPrompt = false) → P t (result, c)
  /-- It asks and tries to save, in vain. -/
  refused : command = .save → ∀ t e, c.Refused t e → P t (.error (.store e), c)
  /-- It asks and makes a list of patterns the active one. -/
  activated : ∀ t patterns, c.Chooses command t patterns →
    (c.activate patterns).Ensures fun u c' => P (t ++ u) (.ok .applied, c')
  /-- It asks and saves. -/
  saved : command = .save → ∀ t, c.Saves t → P t (.ok .applied, c)

variable {P : List Talk → Except OperationError Outcome × Controller → Prop}

theorem Course.leave {command : SetCommand} (h : c.Course command P) {t : List Talk} (ht : Asks t)
    {outcome : Outcome} (houtcome : outcome ≠ .applied) (reason : String)
    (hskipped : outcome = .skipped → ∀ x ∈ t, x.isPrompt = false) :
    (c.leave outcome reason).Ensures fun u => P (t ++ u) := by
  refine ensures_leave.mpr (h.unchanged _ _ (by simp [ht]) (by simpa using houtcome) ?_)
  intro hresult x hx
  rcases List.mem_append.mp hx with hx | hx
  · exact hskipped (by simpa using hresult) x hx
  · rw [List.mem_singleton.mp hx]
    rfl

theorem Course.abandon {command : SetCommand} (h : c.Course command P) {t : List Talk}
    (ht : Asks t) (e : OperationError) : (c.abandon e).Ensures fun u => P (t ++ u) :=
  ensures_abandon.mpr (h.unchanged _ _ (by simpa using ht) (by simp) (by simp))

theorem Course.apply {command : SetCommand} (h : c.Course command P) {t : List Talk}
    {patterns : List String} (ht : c.Chooses command t patterns) :
    (c.apply patterns).Ensures fun u => P (t ++ u) :=
  ensures_apply.mpr (h.activated t patterns ht)

theorem ensures_define (h : c.Course .new P) : c.define.Ensures P := by
  rw [define, Interaction.ensures_bind, ensures_askText]
  rintro (e | (pattern | _))
  · exact h.abandon (by simp) _
  · exact h.apply (.define pattern)
  · exact h.leave (by simp) (by simp) _ (by simp)

theorem ensures_add (h : c.Course .add P) : c.add.Ensures P := by
  rw [add, Interaction.ensures_bind, ensures_askText]
  rintro (e | (pattern | _))
  · exact h.abandon (by simp) _
  · by_cases hempty : pattern = ""
    · subst hempty
      exact h.leave (by simp) (by simp) _ (by simp)
    · have hsome : (some pattern).filter (!·.isEmpty) = some pattern := by simp [hempty]
      simp only [textOf, hsome]
      exact h.apply (.add pattern hempty)
  · exact h.leave (by simp) (by simp) _ (by simp)

theorem ensures_amend (h : c.Course .fix P) {target : String} (hmem : target ∈ c.current)
    (hne : target ≠ "") (replacement : String) :
    (c.amend target replacement).Ensures fun u => P
      ([Talk.prompt (.choice c.current (some "Pattern to fix")) (.ok (.submitted target)),
        Talk.prompt (.text (some "Replacement (empty removes)") (some target))
          (.ok (.submitted replacement))] ++ u) := by
  unfold amend
  split
  next hempty =>
    obtain rfl : replacement = "" := by simpa using hempty
    rw [Interaction.ensures_bind, ensures_remark]
    exact h.apply (.remove target _ hmem hne)
  next hempty =>
    rw [Interaction.ensures_bind, ensures_remark]
    exact h.apply (.replace target replacement _ hmem hne (by simpa using hempty))

theorem ensures_fix (h : c.Course .fix P) : c.fix.Ensures P := by
  unfold fix
  split
  next => exact h.leave asks_nil (by simp) _ (by simp)
  next =>
    rw [Interaction.ensures_bind, ensures_askChoice]
    rintro (e | (target | _))
    · exact h.abandon (by simp) _
    · by_cases hchosen : target ≠ "" ∧ target ∈ c.current
      · obtain ⟨hne, hmem⟩ := hchosen
        have hsome : (some target).filter c.current.contains = some target := by simp [hmem]
        simp only [choiceOf, String.isEmpty_iff, hne, if_false, hsome]
        rw [Interaction.ensures_bind, ensures_askText]
        rintro (e | (replacement | _))
        · exact h.abandon (t := [_, _]) (by simp) _
        · exact ensures_amend h hmem hne replacement
        · exact h.leave (t := [_, _]) (by simp) (by simp) _ (by simp)
      · have hnone : ((if target.isEmpty then none else some target).filter c.current.contains) =
            none := by
          by_cases hne : target = "" <;> simp_all
        simp only [choiceOf, hnone]
        exact h.leave (by simp) (by simp) _ (by simp)
    · exact h.leave (by simp) (by simp) _ (by simp)

theorem ensures_load (h : c.Course .load P) : c.load.Ensures P := by
  rw [load, Interaction.ensures_bind, ensures_askSets]
  rintro (e | sets)
  · exact h.abandon (by simp) _
  · simp only [Except.mapError]
    split
    next => exact h.leave (by simp) (by simp) _ (by simp [Talk.getSets, Talk.isPrompt])
    next =>
      rw [Interaction.ensures_bind, ensures_askChoice]
      rintro (e | (id | _))
      · exact h.abandon (t := [_, _]) (by simp) _
      · by_cases hempty : id = ""
        · subst hempty
          exact h.leave (t := [_, _]) (by simp) (by simp) _ (by simp)
        · simp only [choiceOf, String.isEmpty_iff, hempty, if_false, Option.bind_some]
          cases hfound : PatternSet.find? sets id with
          | none => exact h.leave (t := [_, _]) (by simp) (by simp) _ (by simp)
          | some set =>
            rw [Interaction.ensures_bind, ensures_remark]
            exact h.apply (.load sets id set _ hfound hempty)
      · exact h.leave (t := [_, _]) (by simp) (by simp) _ (by simp)

theorem ensures_store (h : c.Course .save P) {id : String} (hactive : c.current ≠ [])
    (hne : id ≠ "") :
    (c.store id).Ensures fun u => P
      ([Talk.prompt (.text (some "Name for this pattern set") none) (.ok (.submitted id))] ++ u) := by
  rw [store, Interaction.ensures_bind, ensures_askSets]
  rintro (e | sets)
  · exact h.abandon (t := [_, _]) (by simp) _
  · simp only [Except.mapError]
    rw [Interaction.ensures_bind, ensures_writeSets]
    rintro (e | written)
    · exact h.refused rfl _ e (.intro id sets e)
    · simp only [Except.mapError]
      rw [Interaction.ensures_bind, ensures_remark]
      exact h.saved rfl _ (.intro id sets _ hactive hne)

theorem ensures_save (h : c.Course .save P) : c.save.Ensures P := by
  unfold save
  split
  next => exact h.leave asks_nil (by simp) _ (by simp)
  next hactive =>
    rw [Interaction.ensures_bind, ensures_askText]
    rintro (e | (id | _))
    · exact h.abandon (by simp) _
    · by_cases hempty : id = ""
      · subst hempty
        exact h.leave (by simp) (by simp) _ (by simp)
      · have hsome : (some id).filter (!·.isEmpty) = some id := by simp [hempty]
        simp only [textOf, hsome]
        exact ensures_store h (by simpa using hactive) hempty
    · exact h.leave (by simp) (by simp) _ (by simp)

/-- To show something of all that an operation may come to, it is enough to show it of the three
cases of its course. -/
theorem ensures_operation {command : SetCommand} (h : c.Course command P) :
    (command.operation c).Ensures P := by
  cases command with
  | new => exact ensures_define h
  | add => exact ensures_add h
  | fix => exact ensures_fix h
  | load => exact ensures_load h
  | save => exact ensures_save h

end Controller

end AnchorOutline
