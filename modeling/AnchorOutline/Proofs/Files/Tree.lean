import AnchorOutline.Files.Tree
import Mathlib

/-!
# What is seen and changed through a path

A path looks at one place after the other. What it comes to depends on these places only, and what
is done with it changes places among them that are no directories.

* `Path.places` : the places that a path looks at;
* `Tree.Agrees` : two trees with the same entries at some places; paths that look at no others come
  to the same in both;
* `Tree.Edited` : a tree that differs from an earlier one at some places only, and still has all its
  directories, so that paths lead where they led;
* `Tree.write_eq_ok`, `Tree.rename_eq_ok` and so on : when something can be done, and what it makes
  of the tree.
-/

namespace AnchorOutline

/-! ## Lists of pairs -/

section Pairs

variable {α β : Type} [BEq α] [LawfulBEq α] {key other : α} {value : β} {pairs : List (α × β)}

theorem lookup_filter_ne (h : other ≠ key) :
    (pairs.filter (·.1 != key)).lookup other = pairs.lookup other := by
  induction pairs with
  | nil => rfl
  | cons x rest ih =>
    obtain ⟨k, v⟩ := x
    by_cases hk : k = key
    · subst hk
      have hother : (other == k) = false := by simpa using h
      simp [List.lookup_cons, ih, hother]
    · simp [hk, List.lookup_cons, ih]

theorem lookup_filter_self : (pairs.filter (·.1 != key)).lookup key = none := by
  rw [List.lookup_eq_none_iff]
  intro x hx
  have hne : x.1 ≠ key := by simpa using (List.mem_filter.mp hx).2
  exact bne_iff_ne.mpr hne.symm

theorem lookup_replaced_self :
    (pairs.filter (·.1 != key) ++ [(key, value)]).lookup key = some value := by
  rw [List.lookup_append, lookup_filter_self]
  simp

theorem lookup_replaced_of_ne (h : other ≠ key) :
    (pairs.filter (·.1 != key) ++ [(key, value)]).lookup other = pairs.lookup other := by
  have hother : (other == key) = false := by simpa using h
  rw [List.lookup_append, lookup_filter_ne h]
  simp [List.lookup_cons, hother]

end Pairs

namespace Tree

variable {t t' t'' : Tree} {names here q : List String}

/-! ## Entries -/

theorem entry?_eq_lookup (h : q ≠ []) : t.entry? q = t.entries.lookup q := if_neg h

theorem entry?_put_self {e : Entry} (h : names ≠ []) : entry? (t.put names e) names = some e := by
  rw [entry?_eq_lookup h, put, lookup_replaced_self]

theorem entry?_put_of_ne {e : Entry} (h : q ≠ names) : entry? (t.put names e) q = t.entry? q := by
  by_cases hq : q = []
  · subst hq
    rfl
  · rw [entry?_eq_lookup hq, entry?_eq_lookup hq, put, lookup_replaced_of_ne h]

theorem entry?_erase_self (h : names ≠ []) : entry? (t.erase names) names = none := by
  rw [entry?_eq_lookup h, erase, lookup_filter_self]

theorem entry?_erase_of_ne (h : q ≠ names) : entry? (t.erase names) q = t.entry? q := by
  by_cases hq : q = []
  · subst hq
    rfl
  · rw [entry?_eq_lookup hq, entry?_eq_lookup hq, erase, lookup_filter_ne h]

/-! ## Places -/

/-- The places that names look at from a directory on, one after the other. -/
def placesFrom : List String → List String → List (List String)
  | _, [] => []
  | here, "." :: rest => placesFrom here rest
  | here, ".." :: rest => placesFrom here.dropLast rest
  | here, name :: rest => (here ++ [name]) :: placesFrom (here ++ [name]) rest

theorem placesFrom_cons {name : String} (hdot : name ≠ ".") (hdots : name ≠ "..")
    (rest : List String) : placesFrom here (name :: rest) =
      (here ++ [name]) :: placesFrom (here ++ [name]) rest :=
  placesFrom.eq_4 here name rest hdot hdots

theorem placesFrom_subset_append (here names rest : List String) :
    placesFrom here names ⊆ placesFrom here (names ++ rest) := by
  fun_induction placesFrom here names with
  | case1 => simp
  | case2 here names ih => exact ih
  | case3 here names ih => exact ih
  | case4 here name names hdot hdots ih =>
    rw [List.cons_append, placesFrom_cons hdot hdots]
    exact List.cons_subset_cons _ ih

theorem placesFrom_append_dot (here names : List String) :
    placesFrom here (names ++ ["."]) = placesFrom here names := by
  fun_induction placesFrom here names with
  | case1 => rfl
  | case2 here names ih => exact ih
  | case3 here names ih => exact ih
  | case4 here name names hdot hdots ih =>
    rw [List.cons_append, placesFrom_cons hdot hdots, ih]

/-- Where no name leads back, the places are reached by ever more of the names. -/
theorem isPrefix_of_mem_placesFrom (hback : ".." ∉ names) (h : q ∈ placesFrom here names)
    (hdot : "." ∉ names) : q <+: here ++ names := by
  fun_induction placesFrom here names with
  | case1 => cases h
  | case2 here names ih => simp at hdot
  | case3 here names ih => simp at hback
  | case4 here name names _ _ ih =>
    rcases List.mem_cons.mp h with rfl | h
    · exact ⟨names, by simp⟩
    · simpa using ih (by simp_all) h (by simp_all)

/-- The places on the way to a place are looked at before, or are on the way to the first directory. -/
theorem mem_placesFrom_of_isPrefix {d : List String} (h : q ∈ placesFrom here names) (hd : d <+: q) :
    d ∈ placesFrom here names ∨ d <+: here := by
  fun_induction placesFrom here names with
  | case1 => cases h
  | case2 here names ih => exact ih h
  | case3 here names ih => exact (ih h).imp_right (·.trans (List.dropLast_prefix here))
  | case4 here name names _ _ ih =>
    have hfirst (hd : d <+: here ++ [name]) :
        d ∈ (here ++ [name]) :: placesFrom (here ++ [name]) names ∨ d <+: here := by
      rcases List.prefix_concat_iff.mp hd with rfl | hd
      · exact .inl List.mem_cons_self
      · exact .inr hd
    rcases List.mem_cons.mp h with rfl | h
    · exact hfirst hd
    · rcases ih h with hmem | hd
      · exact .inl (List.mem_cons_of_mem _ hmem)
      · exact hfirst hd

theorem walk_cons {name : String} (hdot : name ≠ ".") (hdots : name ≠ "..") (rest : List String) :
    t.walk here (name :: rest) =
      if 255 < name.utf8ByteSize then .error .nameTooLong
      else match t.entry? (here ++ [name]), rest with
        | some .directory, _ => t.walk (here ++ [name]) rest
        | entry, [] => .ok (here ++ [name], entry)
        | some (.file _), _ => .error .notDirectory
        | none, _ => .error .notFound := by
  cases hentry : t.entry? (here ++ [name]) with
  | none =>
    cases rest with
    | nil => rw [walk.eq_5 t here name hdot hdots (by simp [hentry]), hentry]
    | cons name' rest => rw [walk.eq_7 t here name _ hdot hdots hentry (by simp)]
  | some entry =>
    cases entry with
    | directory => rw [walk.eq_4 t here name rest hdot hdots hentry]
    | file bytes =>
      cases rest with
      | nil => rw [walk.eq_5 t here name hdot hdots (by simp [hentry]), hentry]
      | cons name' rest => rw [walk.eq_6 t here name _ hdot hdots bytes hentry (by simp)]

/-- Names come to a directory, or to the last of their places. -/
theorem eq_of_walk {e : Option Entry} (h : t.walk here names = .ok (q, e)) :
    e = some .directory ∨ q ≠ [] ∧ q ∈ placesFrom here names ∧ e = t.entry? q := by
  fun_induction placesFrom here names with
  | case1 here =>
    cases h
    exact .inl rfl
  | case2 here names ih => exact ih h
  | case3 here names ih => exact ih h
  | case4 here name names hdot hdots ih =>
    rw [walk_cons hdot hdots] at h
    split at h
    next => cases h
    next =>
      split at h
      next => exact (ih h).imp_right fun ⟨hne, hmem, he⟩ => ⟨hne, List.mem_cons_of_mem _ hmem, he⟩
      next =>
        cases h
        exact .inr ⟨by simp, List.mem_cons_self, rfl⟩
      next => cases h
      next => cases h

/-- Without names that lead back, what is reached is what the names say. -/
theorem names_eq_of_walk {e : Option Entry} (hback : ".." ∉ names) (hdot : "." ∉ names)
    (h : t.walk here names = .ok (q, e)) : q = here ++ names := by
  fun_induction placesFrom here names with
  | case1 here =>
    cases h
    simp
  | case2 here names ih => simp at hdot
  | case3 here names ih => simp at hback
  | case4 here name names hdot' hdots ih =>
    rw [walk_cons hdot' hdots] at h
    split at h
    next => cases h
    next =>
      split at h
      next => simpa using ih (by simp_all) (by simp_all) h
      next =>
        cases h
        rfl
      next => cases h
      next => cases h

theorem of_walk_append {rest : List String} (hrest : rest ≠ []) {e : Option Entry}
    (h : t.walk here (names ++ rest) = .ok (q, e)) :
    ∃ d, t.walk here names = .ok (d, some .directory) ∧ t.walk d rest = .ok (q, e) := by
  fun_induction placesFrom here names with
  | case1 here => exact ⟨here, rfl, h⟩
  | case2 here names ih => exact ih h
  | case3 here names ih => exact ih h
  | case4 here name names hdot hdots ih =>
    rw [List.cons_append, walk_cons hdot hdots] at h
    rw [walk_cons hdot hdots]
    split at h
    next => cases h
    next hlength =>
      rw [if_neg hlength]
      split at h
      next hentry =>
        rw [hentry]
        exact ih h
      next hnil _ => exact absurd (List.append_eq_nil_iff.mp hnil).2 hrest
      next => cases h
      next => cases h

/-! ## Trees that agree -/

/-- Trees with the same entries at some places. -/
def Agrees (W : List String → Prop) (t t' : Tree) : Prop := ∀ q, W q → t.entry? q = t'.entry? q

variable {W W' : List String → Prop}

theorem Agrees.mono (h : t.Agrees W t') (hW : ∀ q, W' q → W q) : t.Agrees W' t' :=
  fun q hq => h q (hW q hq)

theorem Agrees.put (h : t.Agrees W t') (names : List String) (e : Entry) :
    (t.put names e).Agrees W (t'.put names e) := by
  intro q hq
  by_cases hne : q = names
  · subst hne
    by_cases hroot : q = []
    · subst hroot
      rfl
    · rw [entry?_put_self hroot, entry?_put_self hroot]
  · rw [entry?_put_of_ne hne, entry?_put_of_ne hne, h q hq]

theorem Agrees.erase (h : t.Agrees W t') (names : List String) :
    (t.erase names).Agrees W (t'.erase names) := by
  intro q hq
  by_cases hne : q = names
  · subst hne
    by_cases hroot : q = []
    · subst hroot
      rfl
    · rw [entry?_erase_self hroot, entry?_erase_self hroot]
  · rw [entry?_erase_of_ne hne, entry?_erase_of_ne hne, h q hq]

theorem walk_congr (h : t.Agrees (· ∈ placesFrom here names) t') :
    t.walk here names = t'.walk here names := by
  fun_induction placesFrom here names with
  | case1 => rfl
  | case2 here names ih => exact ih h
  | case3 here names ih => exact ih h
  | case4 here name names hdot hdots ih =>
    rw [walk_cons hdot hdots, walk_cons hdot hdots, h _ List.mem_cons_self,
      ih fun q hq => h q (List.mem_cons_of_mem _ hq)]

/-! ## Trees that were edited -/

/-- A tree differs from an earlier one at some places only, and there was no directory at any of
those. -/
def Edited (W : List String → Prop) (t t' : Tree) : Prop :=
  ∀ q, t'.entry? q = t.entry? q ∨ W q ∧ t.entry? q ≠ some .directory

theorem Edited.refl (W : List String → Prop) (t : Tree) : t.Edited W t := fun _ => .inl rfl

theorem Edited.mono (h : t.Edited W t') (hW : ∀ q, W q → W' q) : t.Edited W' t' :=
  fun q => (h q).imp_right fun ⟨hq, hne⟩ => ⟨hW q hq, hne⟩

theorem Edited.trans (h : t.Edited W t') (h' : t'.Edited W t'') : t.Edited W t'' := by
  intro q
  rcases h q with hq | hq
  · rw [← hq]
    exact h' q
  · exact .inr hq

theorem Edited.entry?_eq (h : t.Edited W t') (hq : ¬ W q) : t'.entry? q = t.entry? q :=
  (h q).resolve_right fun hW => hq hW.1

theorem Edited.directory (h : t.Edited W t') (hq : t.entry? q = some .directory) :
    t'.entry? q = some .directory :=
  ((h q).resolve_right fun hW => hW.2 hq).trans hq

theorem edited_put (h : t.entry? names ≠ some .directory) (e : Entry) :
    t.Edited (· = names) (t.put names e) := by
  intro q
  by_cases hq : q = names
  · exact .inr ⟨hq, hq ▸ h⟩
  · exact .inl (entry?_put_of_ne hq)

theorem edited_erase (h : t.entry? names ≠ some .directory) :
    t.Edited (· = names) (t.erase names) := by
  intro q
  by_cases hq : q = names
  · exact .inr ⟨hq, hq ▸ h⟩
  · exact .inl (entry?_erase_of_ne hq)

/-- Where the directories on the way are still there, names lead where they led. -/
theorem walk_of_directories {e : Option Entry}
    (h : ∀ q ∈ placesFrom here names, t.entry? q = some .directory → t'.entry? q = some .directory)
    (hwalk : t.walk here names = .ok (q, e)) :
    t'.walk here names = .ok (q, if e = some .directory then e else t'.entry? q) := by
  fun_induction placesFrom here names with
  | case1 here =>
    cases hwalk
    rfl
  | case2 here names ih => exact ih h hwalk
  | case3 here names ih => exact ih h hwalk
  | case4 here name names hdot hdots ih =>
    rw [walk_cons hdot hdots] at hwalk ⊢
    split at hwalk
    next => cases hwalk
    next hlength =>
      rw [if_neg hlength]
      split at hwalk
      next hentry =>
        rw [h _ List.mem_cons_self hentry]
        exact ih (fun q hq => h q (List.mem_cons_of_mem _ hq)) hwalk
      next hentry =>
        cases hwalk
        rw [if_neg hentry]
        rcases t'.entry? (here ++ [name]) with _ | ⟨bytes | _⟩ <;> rfl
      next => cases hwalk
      next => cases hwalk

/-- Names that come to a directory pass directories only, and further names go on from there. -/
theorem placesFrom_append {d : List String} (hwalk : t.walk here names = .ok (d, some .directory))
    (rest : List String) :
    (∀ q ∈ placesFrom here names, t.entry? q = some .directory) ∧
      placesFrom here (names ++ rest) = placesFrom here names ++ placesFrom d rest := by
  fun_induction placesFrom here names with
  | case1 here =>
    cases hwalk
    exact ⟨nofun, rfl⟩
  | case2 here names ih => exact ih hwalk
  | case3 here names ih => exact ih hwalk
  | case4 here name names hdot hdots ih =>
    rw [walk_cons hdot hdots] at hwalk
    split at hwalk
    next => cases hwalk
    next =>
      split at hwalk
      next hentry =>
        obtain ⟨hdirectories, hplaces⟩ := ih hwalk
        rw [List.cons_append, placesFrom_cons hdot hdots, hplaces]
        exact ⟨List.forall_mem_cons.mpr ⟨hentry, hdirectories⟩, rfl⟩
      next hentry => exact absurd (congrArg Prod.snd (Except.ok.inj hwalk)) hentry
      next => cases hwalk
      next => cases hwalk

/-! ## Names of files -/

def Nameable (names : List String) : Prop :=
  ∀ name ∈ names, name ≠ "." ∧ name ≠ ".." ∧ name.utf8ByteSize ≤ 255

theorem mem_placesFrom_self (hnames : Nameable names) (hne : names ≠ []) :
    here ++ names ∈ placesFrom here names := by
  induction names generalizing here with
  | nil => exact absurd rfl hne
  | cons name rest ih =>
    obtain ⟨⟨hdot, hdots, -⟩, hrest⟩ := List.forall_mem_cons.mp hnames
    rw [placesFrom_cons hdot hdots]
    by_cases hlast : rest = []
    · subst hlast
      exact List.mem_cons_self
    · have hmem : here ++ [name] ++ rest ∈ placesFrom (here ++ [name]) rest := ih hrest hlast
      rw [List.append_assoc, List.singleton_append] at hmem
      exact List.mem_cons_of_mem _ hmem

/-- Names that go on from others go on from the directory of these. -/
theorem directory_of_walk_append (hnames : Nameable names) {rest : List String} (hrest : rest ≠ [])
    {e : Option Entry} (h : t.walk [] (names ++ rest) = .ok (q, e)) :
    t.entry? names = some .directory := by
  obtain ⟨d, hwalk, -⟩ := of_walk_append hrest h
  by_cases hne : names = []
  · subst hne
    rfl
  · exact (placesFrom_append hwalk []).1 names (mem_placesFrom_self hnames hne)

/-- Names lead nowhere where nothing is at a place on the way, and before it directories or nothing. -/
theorem walk_of_missing (hnames : Nameable names)
    (hbefore : ∀ q, q <+: names → t.entry? (here ++ q) = none ∨ t.entry? (here ++ q) = some .directory)
    (hne : names ≠ []) (hmissing : t.entry? (here ++ names) = none) (rest : List String) :
    t.walk here (names ++ rest) = .error .notFound ∨ ∃ q, t.walk here (names ++ rest) = .ok (q, none) := by
  induction names generalizing here with
  | nil => exact absurd rfl hne
  | cons name names ih =>
    obtain ⟨⟨hdot, hdots, hsize⟩, hnames⟩ := List.forall_mem_cons.mp hnames
    rw [List.cons_append, walk_cons hdot hdots, if_neg (Nat.not_lt.mpr hsize)]
    rcases hbefore [name] ⟨names, rfl⟩ with hnone | hdirectory
    · rw [hnone]
      cases names ++ rest with
      | nil => exact .inr ⟨_, rfl⟩
      | cons => exact .inl rfl
    · rw [hdirectory]
      refine ih hnames (fun q hq => ?_) (fun hlast => ?_) ?_
      · simpa using hbefore (name :: q) (List.prefix_cons_inj name |>.mpr hq)
      · rw [hlast, hdirectory] at hmissing
        cases hmissing
      · simpa using hmissing

end Tree

/-! ## Paths -/

/-- The places that a path looks at, whatever is there. -/
def Path.places (p : Path) : List (List String) := Tree.placesFrom [] p.names

namespace Tree

variable {t t' : Tree} {p source target : Path} {names q : List String} {e : Option Entry}

theorem walk_of_locate (h : t.locate p = .ok (q, e)) : t.walk [] p.names = .ok (q, e) := by
  unfold locate at h
  split at h
  next => cases h
  next =>
    split at h
    next => cases h
    next =>
      split at h
      next =>
        obtain ⟨d, hwalk, hdot⟩ := of_walk_append (by simp) h
        cases hdot
        exact hwalk
      next =>
        rwa [List.append_nil] at h

/-- A path that leads to no directory leads to one of its places. -/
theorem mem_places_of_locate (h : t.locate p = .ok (q, e)) (hne : e ≠ some .directory) :
    q ≠ [] ∧ q ∈ p.places ∧ e = t.entry? q :=
  (eq_of_walk (walk_of_locate h)).resolve_left hne

theorem locate_of_directories
    (h : ∀ q ∈ p.places, t.entry? q = some .directory → t'.entry? q = some .directory)
    (hlocate : t.locate p = .ok (q, e)) :
    t'.locate p = .ok (q, if e = some .directory then e else t'.entry? q) := by
  unfold locate at hlocate ⊢
  split at hlocate
  next => cases hlocate
  next hempty =>
    rw [if_neg hempty]
    split at hlocate
    next => cases hlocate
    next hnull =>
      rw [if_neg hnull]
      refine walk_of_directories (fun q hq => h q ?_) hlocate
      split at hq
      next => rwa [placesFrom_append_dot] at hq
      next => rwa [List.append_nil] at hq

theorem locate_of_edited {W : List String → Prop} (h : t.Edited W t')
    (hlocate : t.locate p = .ok (q, e)) :
    t'.locate p = .ok (q, if e = some .directory then e else t'.entry? q) :=
  locate_of_directories (fun _ _ => h.directory) hlocate

theorem isDirectory_of_edited {W : List String → Prop} (h : t.Edited W t')
    (hdirectory : t.isDirectory p = true) : t'.isDirectory p = true := by
  unfold isDirectory at hdirectory ⊢
  split at hdirectory
  next hlocate =>
    rw [locate_of_edited h hlocate]
    rfl
  next => cases hdirectory

theorem locate_congr (h : t.Agrees (· ∈ p.places) t') : t.locate p = t'.locate p := by
  unfold locate
  split
  next => rfl
  next =>
    split
    next => rfl
    next =>
      refine walk_congr (h.mono fun q hq => ?_)
      split at hq
      next => rwa [placesFrom_append_dot] at hq
      next => rwa [List.append_nil] at hq

/-! ## What is done -/

theorem read_eq_ok {bytes : ByteArray} : t.read p = .ok bytes ↔
    ∃ names, t.locate p = .ok (names, some (.file bytes)) ∧ p.ending ≠ .slash := by
  unfold read
  cases t.locate p with
  | error e => simp [bind, Except.bind]
  | ok r =>
    obtain ⟨names, e⟩ := r
    rcases e with _ | ⟨bytes' | _⟩ <;> by_cases hslash : p.ending = .slash <;>
      simp [bind, Except.bind, hslash]

theorem read_of_missing (hnames : Nameable names)
    (hbefore : ∀ q, q <+: names → t.entry? q = none ∨ t.entry? q = some .directory)
    (hmissing : t.entry? names = none) (hp : names <+: p.names) :
    t.read p = .error (if p.names.any (·.toList.contains '\x00') then .nullInName else .notFound) := by
  have hne : names ≠ [] := by
    rintro rfl
    cases hmissing
  obtain ⟨rest, hsplit⟩ := hp
  have hempty : p.isEmpty = false := by
    simp [Path.isEmpty, ← hsplit, hne]
  rw [read, locate, hempty, if_neg Bool.false_ne_true]
  split
  next => rfl
  next =>
    rw [← hsplit, List.append_assoc]
    generalize rest ++ _ = later
    have hwalk : t.walk [] (names ++ later) = .error .notFound ∨
        ∃ q, t.walk [] (names ++ later) = .ok (q, none) :=
      walk_of_missing hnames hbefore hne hmissing later
    rcases hwalk with hwalk | ⟨q, hwalk⟩ <;> rw [hwalk] <;> rfl

theorem createDir_eq_ok : t.createDir p = .ok t' ↔
    ∃ names, t.locate p = .ok (names, none) ∧ t' = t.put names .directory := by
  unfold createDir
  cases t.locate p with
  | error e => simp [bind, Except.bind]
  | ok r =>
    obtain ⟨names, e⟩ := r
    cases e <;> simp [bind, Except.bind, eq_comm]

theorem write_eq_ok {bytes : ByteArray} : t.write p bytes = .ok t' ↔
    ∃ names e, t.locate p = .ok (names, e) ∧ e ≠ some .directory ∧ p.ending ≠ .slash ∧
      t' = t.put names (.file bytes) := by
  unfold write
  cases t.locate p with
  | error e => simp [bind, Except.bind]
  | ok r =>
    obtain ⟨names, e⟩ := r
    rcases e with _ | ⟨bytes | _⟩ <;> by_cases hslash : p.ending = .slash <;>
      simp [bind, Except.bind, hslash, eq_comm, and_assoc]

theorem rename_eq_ok : t.rename source target = .ok t' ↔
    ∃ old bytes new e, t.locate source = .ok (old, some (.file bytes)) ∧
      t.locate target = .ok (new, e) ∧ e ≠ some .directory ∧ source.ending ≠ .slash ∧
      target.ending ≠ .slash ∧ t' = (t.erase old).put new (.file bytes) := by
  unfold rename
  cases t.locate source with
  | error e => simp [bind, Except.bind]
  | ok r =>
    obtain ⟨old, e⟩ := r
    cases t.locate target with
    | error e' => simp [bind, Except.bind]
    | ok r' =>
      obtain ⟨new, e'⟩ := r'
      rcases e with _ | ⟨bytes | _⟩
      · simp [bind, Except.bind]
      · rcases e' with _ | ⟨bytes' | _⟩ <;> by_cases hsource : source.ending = .slash <;>
          by_cases htarget : target.ending = .slash <;>
          simp [bind, Except.bind, hsource, htarget, eq_comm, and_assoc]
      · simp [bind, Except.bind]

theorem remove_eq_ok : t.remove p = .ok t' ↔
    ∃ names bytes, t.locate p = .ok (names, some (.file bytes)) ∧ p.ending ≠ .slash ∧
      t' = t.erase names := by
  unfold remove
  cases t.locate p with
  | error e => simp [bind, Except.bind]
  | ok r =>
    obtain ⟨names, e⟩ := r
    rcases e with _ | ⟨bytes | _⟩ <;> by_cases hslash : p.ending = .slash <;>
      simp [bind, Except.bind, hslash, eq_comm]

end Tree

end AnchorOutline
