import AnchorOutline.Proofs.Files.Tree

/-!
# Paths beside one another

* `Path.Straight` : a path without names that lead back or stay;
* `Path.names_of_locate` : such a path leads where its names say;
* `Path.named_of_names` : a path that ends in a name, and the one that has another extension there.
-/

namespace AnchorOutline.Path

variable {p : Path}

/-- No name of the path leads back or stays. -/
structure Straight (p : Path) : Prop where
  back : ".." ∉ p.names
  dot : "." ∉ p.names

theorem dot_not_mem_ofString (s : String) : "." ∉ (ofString s).names := by
  intro h
  obtain ⟨part, hpart, hdot⟩ := List.mem_map.mp h
  have hchars : part = ['.'] := by simpa using congrArg String.toList hdot
  have hkept := (List.mem_filter.mp hpart).2
  rw [hchars] at hkept
  cases hkept

theorem straight_ofString {s : String} (h : ".." ∉ (ofString s).names) : (ofString s).Straight :=
  ⟨h, dot_not_mem_ofString s⟩

theorem Straight.names_of_locate (h : p.Straight) {t : Tree} {names : List String}
    {e : Option Entry} (hlocate : t.locate p = .ok (names, e)) : names = p.names :=
  Tree.names_eq_of_walk h.back h.dot (Tree.walk_of_locate hlocate)

theorem Straight.isPrefix_of_mem_places (h : p.Straight) {q : List String} (hq : q ∈ p.places) :
    q <+: p.names :=
  Tree.isPrefix_of_mem_placesFrom h.back hq h.dot

/-! ## Extensions -/

theorem stem_append {before extension : List Char} (hbefore : before ≠ [])
    (h : '.' ∉ extension) : stem (before ++ '.' :: extension) = before := by
  have hdrop : (before ++ '.' :: extension).reverse.dropWhile (· != '.') =
      '.' :: before.reverse := by
    rw [List.reverse_append, List.reverse_cons, List.append_assoc,
      List.dropWhile_append_of_pos fun c hc => ?_]
    · rfl
    · simp only [bne_iff_ne, ne_eq]
      rintro rfl
      exact h (List.mem_reverse.mp hc)
  unfold stem
  rw [hdrop, List.tail_cons, List.reverse_reverse]
  cases before with
  | nil => exact absurd rfl hbefore
  | cons c before => rfl

/-- The name that a name becomes while its new text is not complete. -/
def besideName (name : String) : String := String.ofList (stem name.toList) ++ "." ++ "json.tmp"

theorem toList_besideName (name : String) :
    (besideName name).toList = stem name.toList ++ ".json.tmp".toList := by
  simp [besideName, String.toList_append]

/-- The stem of the name beside is longer than that of the name. -/
theorem besideName_ne (name : String) : besideName name ≠ name := by
  intro h
  have hchars := congrArg String.toList h
  rw [toList_besideName] at hchars
  have hstem : stem (stem name.toList ++ ".json.tmp".toList) =
      stem name.toList ++ ".json".toList := by
    have hsplit : stem name.toList ++ ".json.tmp".toList =
        (stem name.toList ++ ".json".toList) ++ '.' :: "tmp".toList := by simp
    rw [hsplit, stem_append (by simp) (by decide)]
  rw [hchars] at hstem
  have hlength := congrArg List.length hstem
  simp at hlength

theorem besideName_ne_of_short {name short : String} (h : short.length < 9) :
    besideName name ≠ short := by
  rintro rfl
  rw [← String.length_toList, toList_besideName, List.length_append] at h
  have hextension : ".json.tmp".toList.length = 9 := by decide
  omega

/-- A path that ends in a name of a file, the directory above it, and the path beside it. -/
structure Named (p beside : Path) (above : List String) (name : String) : Prop where
  names : p.names = above ++ [name]
  back : name ≠ ".."
  besidePath : beside = ⟨p.absolute, above ++ [besideName name], .name⟩

theorem named_of_names (h : p.names ≠ []) (hback : p.names.getLast? ≠ some "..") :
    ∃ above name, p.Named (p.withExtension "json.tmp") above name := by
  have hnames := List.dropLast_concat_getLast h
  refine ⟨p.names.dropLast, p.names.getLast h, hnames.symm, ?_, ?_⟩
  · intro hname
    exact hback (by rw [List.getLast?_eq_some_getLast h, hname])
  · unfold withExtension
    rw [List.getLast?_eq_some_getLast h]
    split
    next hnone => cases hnone
    next hname => exact absurd (by rw [List.getLast?_eq_some_getLast h, hname]) hback
    next name _ hname =>
      cases hname
      rfl

theorem Named.parent_eq {beside : Path} {above : List String} {name : String}
    (h : p.Named beside above name) :
    ∃ ending, p.parent? = some ⟨p.absolute, above, ending⟩ := by
  refine ⟨if p.absolute then .slash else .name, ?_⟩
  rw [parent?, h.names, if_neg (by simp), List.dropLast_concat]

end AnchorOutline.Path
