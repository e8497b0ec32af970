import AnchorOutline.Proofs.Active.Keeping

/-!
# All that was saved

A controller at a list in memory that only it writes: whatever it does, the list comes to the one that
it was, with everything that was saved put into it, one after the other.

* `Round` : an operation at such a list, or something that others do to the table;
* `SharingWithStore.saved`, `SharingWithStore.savedIn` : what a round saves under which id, and what rounds save;
* `SharingWithStore.saved_of_applied`, `SharingWithStore.store_round` : the list after a round;
* `SharingWithStore.rounds_save` : the list after any rounds.
-/

namespace AnchorOutline

variable {η : Type}

/-! ## Rounds -/

/-- An operation, whoever answers prompts, at a list in memory that may refuse to be read or written; or
something that others do to the table. -/
inductive Round (η : Type) where
  | operate (command : SetCommand) (reply : Prompt → η → Except HostFailure Reply × η) (host : η)
      (onGet onPut : Option String)
  | others (action : HandledRegistry.Action)

def submitted (t : List Talk) : List String :=
  t.filterMap fun
    | ⟨.prompt _, .ok (.submitted answer)⟩ => some answer
    | _ => none

namespace SharingWithStore

def round (b : SharingWithStore (List PatternSet)) : Round η → SharingWithStore (List PatternSet)
  | .operate command reply host onGet onPut =>
    (b.operate ⟨reply, SetStore.memory.refusing onGet onPut⟩ host command).2
  | .others action => { b with sharing := b.sharing.act action }

def rounds (b : SharingWithStore (List PatternSet)) (rs : List (Round η)) : SharingWithStore (List PatternSet) :=
  rs.foldl round b

/-- The id that a round saves under, and the patterns that it saves. -/
def saved (b : SharingWithStore (List PatternSet)) : Round η → List (String × List String)
  | .operate command reply host onGet onPut =>
    let w : Surroundings η (List PatternSet) := ⟨reply, SetStore.memory.refusing onGet onPut⟩
    if command = .save ∧ (b.operate w host command).1 = .ok .applied then
      (submitted (w.transcript (command.operation b.sharing.controller) (b.scene host))).map
        (·, b.sharing.controller.current)
    else []
  | .others _ => []

/-- What rounds save, one after the other. -/
def savedIn (b : SharingWithStore (List PatternSet)) : List (Round η) → List (String × List String)
  | [] => []
  | r :: rs => b.saved r ++ (b.round r).savedIn rs

variable {b : SharingWithStore (List PatternSet)}

theorem submitted_of_saves {id : String} {rest : List Talk} (h : ∀ x ∈ rest, x.isPrompt = false) :
    submitted (Talk.prompt namePrompt (.ok (.submitted id)) :: rest) = [id] := by
  have hrest : submitted rest = [] := by
    refine List.filterMap_eq_nil_iff.mpr fun x hx => ?_
    have hquiet := h x hx
    obtain ⟨q, answer⟩ := x
    cases q with
    | prompt p => cases hquiet
    | _ => rfl
  show id :: submitted rest = [id]
  rw [hrest]

/-- An operation that saves puts the active patterns under one id. -/
theorem saved_of_applied {command : SetCommand} {reply : Prompt → η → Except HostFailure Reply × η}
    {host : η} {onGet onPut : Option String}
    (h : command = .save ∧
      (b.operate ⟨reply, SetStore.memory.refusing onGet onPut⟩ host command).1 = .ok .applied) :
    let r : Round η := .operate command reply host onGet onPut
    ∃ id, b.saved r = [(id, b.sharing.controller.current)] ∧
      (b.round r).store = PatternSet.upsert b.store (.ofPatterns id b.sharing.controller.current) := by
  intro r
  let w : Surroundings η (List PatternSet) := ⟨reply, SetStore.memory.refusing onGet onPut⟩
  obtain ⟨hsaves, -⟩ := w.operate_of_ensures (b.sharing.controller.ensures_saves command)
    (b.scene host) h.1 h.2
  have hanswers := w.answers_run (command.operation b.sharing.controller) (b.scene host)
  obtain ⟨id, rest, htranscript, hquiet⟩ := hsaves.eq_cons
  have hsubmitted : submitted (w.transcript (command.operation b.sharing.controller)
      (b.scene host)) = [id] := by
    rw [htranscript]
    exact submitted_of_saves hquiet
  rw [htranscript] at hsaves hanswers
  refine ⟨id, ?_, (hsaves.updates hanswers).eq_of_memory⟩
  rw [saved, if_pos h, hsubmitted]
  rfl

theorem store_round (b : SharingWithStore (List PatternSet)) (r : Round η) :
    (b.round r).store = PatternSet.savedAll b.store (b.saved r) := by
  cases r with
  | others action => rfl
  | operate command reply host onGet onPut =>
    let w : Surroundings η (List PatternSet) := ⟨reply, SetStore.memory.refusing onGet onPut⟩
    by_cases happlied : command = .save ∧ (b.operate w host command).1 = .ok .applied
    · obtain ⟨id, hsaved, hstore⟩ := saved_of_applied happlied
      rw [hsaved, hstore, PatternSet.savedAll_cons]
      rfl
    · have hsaved : b.saved (.operate command reply host onGet onPut) = [] := if_neg happlied
      have hlaw := w.operate_of_ensures (b.sharing.controller.ensures_allOrNothing command)
        (b.scene host)
      rw [hsaved]
      exact Surroundings.held_run (SetStore.keeps_memory.refusing onGet onPut)
        (command.operation b.sharing.controller) (b.scene host)
        (hlaw.notSaved fun h => happlied ⟨h.2, h.1⟩)

theorem store_rounds (b : SharingWithStore (List PatternSet)) (rs : List (Round η)) :
    (b.rounds rs).store = PatternSet.savedAll b.store (b.savedIn rs) := by
  induction rs generalizing b with
  | nil => rfl
  | cons r rs ih =>
    rw [savedIn, PatternSet.savedAll_append, ← store_round]
    exact ih (b.round r)

theorem rounds_append (b : SharingWithStore (List PatternSet)) (rs later : List (Round η)) :
    b.rounds (rs ++ later) = (b.rounds rs).rounds later :=
  List.foldl_append

/-- After any rounds the list has all that was saved, one after the other, each in the place of the first
set with its id or at the end. No id that it ever had is lost or moved, and a set under whose id nothing
was saved is as it was. What was saved last under an id is found under it. If no two sets have the same
id, there are never two. -/
theorem rounds_save (b : SharingWithStore (List PatternSet)) (rs : List (Round η)) :
    let saves := b.savedIn rs
    let final := (b.rounds rs).store
    final = saves.foldl (fun sets (id, patterns) => PatternSet.placed sets (.ofPatterns id patterns))
        b.store ∧
      (∀ k, ((b.rounds (rs.take k)).store.map PatternSet.id) <+: final.map PatternSet.id) ∧
      (∀ (i : Nat) (s : PatternSet), b.store[i]? = some s → s.id ∉ saves.map Prod.fst → final[i]? = some s) ∧
      (∀ earlier id patterns later, saves = earlier ++ (id, patterns) :: later →
        id ∉ later.map Prod.fst → PatternSet.find? final id = some (.ofPatterns id patterns)) ∧
      ((b.store.map PatternSet.id).Nodup →
        ∀ k, ((b.rounds (rs.take k)).store.map PatternSet.id).Nodup) := by
  intro saves final
  have hfinal : final = PatternSet.savedAll b.store saves := store_rounds b rs
  refine ⟨hfinal, fun k => ?_, fun i s hs hid => ?_, fun earlier id patterns later hsplit hlater => ?_,
    fun hnodup k => ?_⟩
  · have hrest : final = PatternSet.savedAll (b.rounds (rs.take k)).store
        ((b.rounds (rs.take k)).savedIn (rs.drop k)) := by
      rw [← store_rounds, ← rounds_append, List.take_append_drop]
    rw [hrest]
    exact PatternSet.ids_isPrefix_savedAll _ _
  · rw [hfinal]
    exact PatternSet.getElem?_savedAll hs hid
  · rw [hfinal, hsplit]
    exact PatternSet.find?_savedAll hlater b.store earlier patterns
  · rw [store_rounds]
    exact PatternSet.nodup_ids_savedAll hnodup _

end SharingWithStore

end AnchorOutline
