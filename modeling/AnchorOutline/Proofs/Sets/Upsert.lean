import AnchorOutline.Sets.PatternSet
import Mathlib

/-!
# Replacing one of the saved sets

A set that is saved takes the place of the first one with its id, or is added behind all others. The
ids stay where they are, and so does every set with another id.

* `PatternSet.placed` : the same by the index of the first set with the id;
* `PatternSet.ids_upsert` : the ids afterwards;
* `PatternSet.getElem?_upsert_of_ne`, `PatternSet.find?_upsert_of_ne` : sets with other ids;
* `PatternSet.find?_upsert_self` : the set itself;
* `PatternSet.upsert_and_upsert_upsert` : one set, the same once more, and two of them in either order;
* `PatternSet.savedAll` : the sets after patterns were saved, one list after the other.
-/

namespace AnchorOutline.PatternSet

variable {sets : List PatternSet} {new s : PatternSet}

/-- The sets with a new one in the place of the first that has its id, or at the end where none has. -/
def placed (sets : List PatternSet) (new : PatternSet) : List PatternSet :=
  match sets.findIdx? (·.id == new.id) with
  | some i => sets.set i new
  | none => sets ++ [new]

theorem upsert_eq_placed (sets : List PatternSet) (new : PatternSet) :
    upsert sets new = placed sets new := by
  induction sets with
  | nil => rfl
  | cons s rest ih =>
    rw [upsert, placed, List.findIdx?_cons]
    by_cases hid : s.id = new.id
    · rw [if_pos hid, if_pos (by simpa using hid)]
      rfl
    · rw [if_neg hid, if_neg (by simpa using hid), ih, placed]
      cases rest.findIdx? (·.id == new.id) with
      | none => rfl
      | some i => rfl

theorem mem_upsert (h : s ∈ upsert sets new) : s = new ∨ s ∈ sets := by
  induction sets with
  | nil => exact .inl (List.mem_singleton.mp h)
  | cons first rest ih =>
    rw [upsert] at h
    split at h
    · exact (List.mem_cons.mp h).imp_right (List.mem_cons_of_mem first)
    · rcases List.mem_cons.mp h with rfl | h
      · exact .inr List.mem_cons_self
      · exact (ih h).imp_right (List.mem_cons_of_mem first)

/-! ## Ids -/

theorem ids_upsert (sets : List PatternSet) (new : PatternSet) :
    (upsert sets new).map id =
      if new.id ∈ sets.map id then sets.map id else sets.map id ++ [new.id] := by
  induction sets with
  | nil => rfl
  | cons s rest ih =>
    rw [upsert]
    by_cases hid : s.id = new.id
    · rw [if_pos hid, if_pos (by simp [hid])]
      simp [hid]
    · rw [if_neg hid, List.map_cons, ih]
      by_cases hmem : new.id ∈ rest.map id
      · rw [if_pos hmem, if_pos (by simp [hmem])]
        rfl
      · rw [if_neg hmem, if_neg (by simpa [Ne.symm hid] using hmem)]
        rfl

theorem ids_isPrefix_upsert (sets : List PatternSet) (new : PatternSet) :
    sets.map id <+: (upsert sets new).map id := by
  rw [ids_upsert]
  split
  · exact List.prefix_refl _
  · exact List.prefix_append _ _

theorem nodup_ids_upsert (h : (sets.map id).Nodup) (new : PatternSet) :
    ((upsert sets new).map id).Nodup := by
  rw [ids_upsert]
  split
  next => exact h
  next hnew =>
    rw [← List.concat_eq_append]
    exact h.concat hnew

/-! ## Sets -/

theorem getElem?_upsert_of_ne {i : Nat} (hs : sets[i]? = some s) (hid : s.id ≠ new.id) :
    (upsert sets new)[i]? = some s := by
  induction sets generalizing i with
  | nil => cases hs
  | cons s' rest ih =>
    rw [upsert]
    cases i with
    | zero =>
      obtain rfl : s' = s := Option.some.inj hs
      rw [if_neg hid]
      rfl
    | succ i =>
      have hrest : rest[i]? = some s := hs
      split
      · exact hrest
      · exact ih hrest

theorem find?_upsert_self (sets : List PatternSet) (new : PatternSet) :
    find? (upsert sets new) new.id = some new := by
  induction sets with
  | nil => simp [find?, upsert]
  | cons s rest ih =>
    rw [upsert]
    split
    next => simp [find?]
    next h =>
      have hs : (s.id == new.id) = false := by simpa using h
      rw [find?, List.find?_cons, hs]
      exact ih

theorem find?_upsert_of_ne {id : String} (h : new.id ≠ id) (sets : List PatternSet) :
    find? (upsert sets new) id = find? sets id := by
  have hnew : (new.id == id) = false := by simpa using h
  induction sets with
  | nil => simp [find?, upsert, hnew]
  | cons s rest ih =>
    rw [upsert]
    split
    next hsame =>
      have hs : (s.id == id) = false := by simpa [hsame] using h
      simp [find?, hnew, hs]
    next =>
      rw [find?, find?, List.find?_cons, List.find?_cons]
      split
      · rfl
      · exact ih

/-! ## Two of them -/

theorem isKnown_iff {name : String} : isKnown sets name = true ↔ name ∈ sets.map id := by
  simp [isKnown]

/-- A set with an id that is not in use comes behind all others. -/
theorem upsert_of_not_mem (h : new.id ∉ sets.map id) : upsert sets new = sets ++ [new] := by
  induction sets with
  | nil => rfl
  | cons first rest ih =>
    rw [List.map_cons, List.mem_cons, not_or] at h
    rw [upsert, if_neg (Ne.symm h.1), ih h.2, List.cons_append]

theorem filter_upsert_of_ne {name : String} (h : new.id ≠ name) (sets : List PatternSet) :
    (upsert sets new).filter (·.id == name) = sets.filter (·.id == name) := by
  have hnew : ¬(new.id == name) = true := by simpa using h
  induction sets with
  | nil => exact List.filter_cons_of_neg hnew
  | cons first rest ih =>
    rw [upsert]
    split
    next hsame =>
      rw [List.filter_cons, List.filter_cons, hsame, if_neg hnew, if_neg hnew]
    next => rw [List.filter_cons, List.filter_cons, ih]

/-- Of two sets with one id the later takes the place of the earlier. -/
theorem upsert_upsert_of_eq (h : s.id = new.id) (sets : List PatternSet) :
    upsert (upsert sets s) new = upsert sets new := by
  induction sets with
  | nil => simp only [upsert, if_pos h]
  | cons first rest ih =>
    rw [upsert, upsert, h]
    split
    next => rw [upsert, if_pos h]
    next hother => rw [upsert, if_neg hother, ih]

/-- Two sets with different ids may be put in either order where one of the ids is in use. -/
theorem upsert_comm_of_mem (h : s.id ≠ new.id) (hmem : s.id ∈ sets.map id ∨ new.id ∈ sets.map id) :
    upsert (upsert sets s) new = upsert (upsert sets new) s := by
  induction sets with
  | nil => simp at hmem
  | cons first rest ih =>
    by_cases hs : first.id = s.id
    · have hnew : first.id ≠ new.id := hs ▸ h
      simp only [upsert, if_pos hs, if_neg hnew, if_neg h]
    · by_cases hnew : first.id = new.id
      · simp only [upsert, if_neg hs, if_pos hnew, if_neg (Ne.symm h)]
      · have hrest : s.id ∈ rest.map id ∨ new.id ∈ rest.map id := by
          simpa [Ne.symm hs, Ne.symm hnew] using hmem
        simp only [upsert, if_neg hs, if_neg hnew, ih hrest]

/-- Where both ids are new the sets come behind the others in the order in which they are put. -/
theorem upsert_upsert_of_not_mem (h : s.id ≠ new.id) (hs : s.id ∉ sets.map id)
    (hnew : new.id ∉ sets.map id) : upsert (upsert sets s) new = sets ++ [s, new] := by
  have hlater : new.id ∉ (sets ++ [s]).map id := by
    rw [List.map_append, List.mem_append, not_or]
    exact ⟨hnew, by simpa using Ne.symm h⟩
  rw [upsert_of_not_mem hs, upsert_of_not_mem hlater, List.append_assoc]
  rfl

theorem upsert_comm_iff (h : s.id ≠ new.id) :
    upsert (upsert sets s) new = upsert (upsert sets new) s ↔
      s.id ∈ sets.map id ∨ new.id ∈ sets.map id := by
  refine ⟨fun hsame => ?_, upsert_comm_of_mem h⟩
  by_contra hmem
  rw [not_or] at hmem
  rw [upsert_upsert_of_not_mem h hmem.1 hmem.2, upsert_upsert_of_not_mem h.symm hmem.2 hmem.1] at hsame
  have hheads := (List.cons.inj (List.append_cancel_left hsame)).1
  exact h (congrArg id hheads)

/-- In either order the sets that were there come to the same, and the same sets are added. -/
theorem upsert_upsert_alike (h : s.id ≠ new.id) (sets : List PatternSet) :
    (upsert (upsert sets s) new).take sets.length = (upsert (upsert sets new) s).take sets.length ∧
      ((upsert (upsert sets s) new).drop sets.length).Perm
        ((upsert (upsert sets new) s).drop sets.length) := by
  by_cases hmem : s.id ∈ sets.map id ∨ new.id ∈ sets.map id
  · rw [upsert_comm_of_mem h hmem]
    exact ⟨rfl, .refl _⟩
  · rw [not_or] at hmem
    rw [upsert_upsert_of_not_mem h hmem.1 hmem.2, upsert_upsert_of_not_mem h.symm hmem.2 hmem.1,
      List.take_left, List.take_left, List.drop_left, List.drop_left]
    exact ⟨rfl, .swap new s []⟩

/-- A set takes the place of the first one with its id, or comes behind all others where its id is new, so
that ids may be doubled and stay so. To put it once more changes nothing, and what was put under its id
before is gone. Two sets with different ids may change their order; it is seen only where both ids are new,
and then only by which of the two comes first. -/
theorem upsert_and_upsert_upsert (sets : List PatternSet) (s t : PatternSet) :
    (isKnown sets s.id = true ↔ ∃ entry ∈ sets, entry.id = s.id) ∧
    find? (upsert sets s) s.id = some s ∧
    (∀ name, s.id ≠ name → (upsert sets s).filter (·.id == name) = sets.filter (·.id == name)) ∧
    (upsert sets s).map id = sets.map id ++ (if isKnown sets s.id then [] else [s.id]) ∧
    upsert (upsert sets s) s = upsert sets s ∧
    (t.id = s.id → upsert (upsert sets t) s = upsert sets s) ∧
    (s.id ≠ t.id →
      (upsert (upsert sets s) t).take sets.length = (upsert (upsert sets t) s).take sets.length ∧
      ((upsert (upsert sets s) t).drop sets.length).Perm
        ((upsert (upsert sets t) s).drop sets.length) ∧
      (upsert (upsert sets s) t = upsert (upsert sets t) s ↔
        isKnown sets s.id = true ∨ isKnown sets t.id = true)) := by
  have hids : (upsert sets s).map id = sets.map id ++ (if isKnown sets s.id then [] else [s.id]) := by
    rw [ids_upsert]
    by_cases hmem : s.id ∈ sets.map id
    · rw [if_pos hmem, if_pos (isKnown_iff.mpr hmem), List.append_nil]
    · rw [if_neg hmem, if_neg fun hknown => hmem (isKnown_iff.mp hknown)]
  refine ⟨isKnown_iff.trans List.mem_map, find?_upsert_self sets s,
    fun name hname => filter_upsert_of_ne hname sets, hids, upsert_upsert_of_eq rfl sets,
    fun hsame => upsert_upsert_of_eq hsame sets, fun hne => ?_⟩
  obtain ⟨hkept, hadded⟩ := upsert_upsert_alike hne sets
  refine ⟨hkept, hadded, ?_⟩
  rw [upsert_comm_iff hne, isKnown_iff, isKnown_iff]

/-- Two sets have one id, as in a file that was edited by hand. The first of them is replaced, whichever of
two other sets is put first. -/
theorem upsert_and_upsert_upsert_of_doubled :
    let a : PatternSet := .ofPatterns "a" ["1"]
    let b : PatternSet := .ofPatterns "b" ["2"]
    let a' : PatternSet := .ofPatterns "a" ["3"]
    let s : PatternSet := .ofPatterns "a" ["x"]
    let t : PatternSet := .ofPatterns "c" ["y"]
    find? (upsert [a, b, a'] s) "a" = some s ∧
      (upsert [a, b, a'] s).map id = ["a", "b", "a"] ∧
      upsert (upsert [a, b, a'] a') s = [s, b, a'] ∧
      upsert (upsert [a, b, a'] s) t = upsert (upsert [a, b, a'] t) s := by
  intro a b a' s t
  obtain ⟨-, hfound, -, hids, -, hagain, -⟩ := upsert_and_upsert_upsert [a, b, a'] s a'
  obtain ⟨-, -, -, -, -, -, horder⟩ := upsert_and_upsert_upsert [a, b, a'] s t
  exact ⟨hfound, hids, hagain rfl, (horder (by decide)).2.2.mpr (.inl (by decide))⟩

/-! ## One after the other -/

/-- The sets after lists of patterns were saved under ids, one after the other. -/
def savedAll (sets : List PatternSet) (saves : List (String × List String)) : List PatternSet :=
  saves.foldl (fun sets (id, patterns) => placed sets (.ofPatterns id patterns)) sets

variable {saves : List (String × List String)}

theorem savedAll_cons (sets : List PatternSet) (id : String) (patterns : List String)
    (saves : List (String × List String)) :
    savedAll sets ((id, patterns) :: saves) =
      savedAll (upsert sets (.ofPatterns id patterns)) saves := by
  rw [upsert_eq_placed]
  rfl

theorem savedAll_append (sets : List PatternSet) (saves later : List (String × List String)) :
    savedAll sets (saves ++ later) = savedAll (savedAll sets saves) later :=
  List.foldl_append

theorem ids_isPrefix_savedAll (sets : List PatternSet) (saves : List (String × List String)) :
    sets.map id <+: (savedAll sets saves).map id := by
  induction saves generalizing sets with
  | nil => exact List.prefix_refl _
  | cons save saves ih =>
    obtain ⟨name, patterns⟩ := save
    rw [savedAll_cons]
    exact (ids_isPrefix_upsert sets _).trans (ih _)

theorem nodup_ids_savedAll (h : (sets.map id).Nodup) (saves : List (String × List String)) :
    ((savedAll sets saves).map id).Nodup := by
  induction saves generalizing sets with
  | nil => exact h
  | cons save saves ih =>
    obtain ⟨name, patterns⟩ := save
    rw [savedAll_cons]
    exact ih (nodup_ids_upsert h _)

theorem getElem?_savedAll {i : Nat} (hs : sets[i]? = some s) (hid : s.id ∉ saves.map Prod.fst) :
    (savedAll sets saves)[i]? = some s := by
  induction saves generalizing sets with
  | nil => exact hs
  | cons save saves ih =>
    obtain ⟨name, patterns⟩ := save
    rw [List.map_cons, List.mem_cons, not_or] at hid
    rw [savedAll_cons]
    exact ih (getElem?_upsert_of_ne hs hid.1) hid.2

theorem find?_savedAll_of_not_mem {name : String} (h : name ∉ saves.map Prod.fst)
    (sets : List PatternSet) : find? (savedAll sets saves) name = find? sets name := by
  induction saves generalizing sets with
  | nil => rfl
  | cons save saves ih =>
    obtain ⟨other, patterns⟩ := save
    rw [List.map_cons, List.mem_cons, not_or] at h
    rw [savedAll_cons, ih h.2, find?_upsert_of_ne (Ne.symm h.1)]

theorem find?_savedAll {name : String} (h : name ∉ saves.map Prod.fst) (sets : List PatternSet)
    (earlier : List (String × List String)) (patterns : List String) :
    find? (savedAll sets (earlier ++ (name, patterns) :: saves)) name =
      some (.ofPatterns name patterns) := by
  rw [savedAll_append, savedAll_cons, find?_savedAll_of_not_mem h]
  exact find?_upsert_self _ _

end AnchorOutline.PatternSet
