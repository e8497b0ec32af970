import AnchorOutline.Outline.Sections
import Mathlib

/-!
# What a scan finds

A scan gives out the symbols of a section when the section ends, one anchor late. Read off the lines
alone, its result is the sections of all anchors in order, each with one symbol for every pattern
that matches its anchor.

* `Matcher.anchorLines` : the lines in which some pattern finds a match;
* `Matcher.lastLine`, `Matcher.sectionAt` : where the section of an anchor ends, and its symbols;
* `Matcher.scan?_eq` : a scan always succeeds, and gives these sections.
-/

namespace AnchorOutline

/-! ## Sections read off the lines -/

namespace Matcher

def isAnchor (m : Matcher) (line : String) : Bool := m.finders.any fun find => (find line).isSome

/-- The lines in which some pattern finds a match, by their numbers in increasing order. -/
def anchorLines (m : Matcher) (lines : List String) : List Nat :=
  (List.range lines.length).filter fun i => m.isAnchor (lines.getD i "")

/-- The last line of the section of an anchor: the one before the next anchor, or the last of all. -/
def lastLine (m : Matcher) (lines : List String) (a : Nat) : Nat :=
  match (m.anchorLines lines).find? (a < ·) with
  | some next => next - 1
  | none => lines.length - 1

/-- The symbols of the section of an anchor: one for every pattern that matches the anchor. -/
def sectionAt (m : Matcher) (lines : List String) (a : Nat) : List Symbol :=
  let last := m.lastLine lines a
  m.finders.filterMap fun find =>
    (find (lines.getD a "")).map fun name => ⟨name, ⟨a, 0, last, (lines.getD last "").length⟩⟩

end Matcher

/-! ## Matches of a line -/

namespace Matcher

theorem isAnchor_iff_matchSet_ne_nil (m : Matcher) (line : String) :
    m.isAnchor line = true ↔ m.matchSet line ≠ [] := by
  simp [isAnchor, matchSet, List.filterMap_eq_nil_iff, Option.isSome_iff_ne_none]

/-- The anchors from line `k` on, with their matches. -/
def anchorsFrom (m : Matcher) (lines : List String) (k : Nat) : List Anchor :=
  ((List.range' k (lines.length - k)).filter fun i => m.isAnchor (lines.getD i "")).map fun i =>
    ⟨i, m.matchSet (lines.getD i "")⟩

theorem anchorsFrom_length (m : Matcher) (lines : List String) :
    m.anchorsFrom lines lines.length = [] := by
  simp [anchorsFrom]

/-- Line `k` is an anchor if it has a match; the anchors behind it are the same either way. -/
theorem anchorsFrom_of_lt (m : Matcher) (lines : List String) {k : Nat} (hk : k < lines.length) :
    m.anchorsFrom lines k =
      match m.matchSet (lines.getD k "") with
      | [] => m.anchorsFrom lines (k + 1)
      | names => ⟨k, names⟩ :: m.anchorsFrom lines (k + 1) := by
  have hlen : lines.length - k = (lines.length - (k + 1)) + 1 := by omega
  have hanchor := m.isAnchor_iff_matchSet_ne_nil (lines.getD k "")
  rw [anchorsFrom, hlen, List.range'_succ, List.filter_cons]
  cases hnames : m.matchSet (lines.getD k "") with
  | nil =>
    rw [if_neg (by rw [hanchor, hnames]; simp)]
    rfl
  | cons name names =>
    rw [if_pos (by rw [hanchor, hnames]; simp), List.map_cons, hnames]
    rfl

theorem anchorLines_eq (m : Matcher) (lines : List String) :
    m.anchorLines lines = (m.anchorsFrom lines 0).map Anchor.line := by
  simp [anchorLines, anchorsFrom, List.range_eq_range', Function.comp_def]

end Matcher

/-! ## The sections of a list of anchors -/

/-- The symbols of the section that begins at an anchor and ends before the line `stop`. -/
def sectionBefore (lines : List String) (a : Anchor) (stop : Nat) : List Symbol :=
  sectionSymbols a (stop - 1) (lines.getD (stop - 1) "")

/-- The symbols of the sections that begin at anchors, each ending before the next anchor. -/
def sectionsOf (lines : List String) : List Anchor → List Symbol
  | [] => []
  | [a] => sectionBefore lines a lines.length
  | a :: b :: rest => sectionBefore lines a b.line ++ sectionsOf lines (b :: rest)

namespace Scan

/-- What there is to come when a scan stands before line `k`: the section that it is in, and those
that begin from there on. -/
def remaining (m : Matcher) (lines : List String) (k : Nat) (s : Scan) : List Symbol :=
  sectionsOf lines (s.opened.toList ++ m.anchorsFrom lines k)

theorem close_of_opened {lines : List String} {s : Scan} {a : Anchor} {stop : Nat}
    (hs : s.opened = some a) (ha : a.line < stop) (hstop : stop ≤ lines.length) :
    s.close lines.toArray stop =
      some { symbols := s.symbols ++ sectionBefore lines a stop } := by
  obtain ⟨last, rfl⟩ : ∃ last, stop = last + 1 := ⟨stop - 1, by omega⟩
  have hlast : last < lines.length := by omega
  simp [close, hs, before?, sectionBefore, hlast]

theorem close_of_not_opened {lines : List String} {s : Scan} (hs : s.opened = none) (stop : Nat) :
    s.close lines.toArray stop = some s := by
  simp [close, hs]

/-- A line without a match changes nothing; an anchor opens a section, and the section that it
closes is just the first of those that were still to come. -/
theorem step_eq (m : Matcher) {lines : List String} {k : Nat} (hk : k < lines.length) {s : Scan}
    (hs : ∀ a ∈ s.opened, a.line < k) :
    ∃ s', s.step m lines.toArray (lines.getD k "", k) = some s' ∧
      (∀ a ∈ s'.opened, a.line < k + 1) ∧
      s'.symbols ++ s'.remaining m lines (k + 1) = s.symbols ++ s.remaining m lines k := by
  have hanchors := m.anchorsFrom_of_lt lines hk
  unfold step remaining
  cases hnames : m.matchSet (lines.getD k "") with
  | nil =>
    rw [hnames] at hanchors
    refine ⟨s, rfl, fun a ha => Nat.lt_succ_of_lt (hs a ha), ?_⟩
    rw [hanchors]
  | cons name names =>
    rw [hnames] at hanchors
    rw [hanchors]
    cases ho : s.opened with
    | none =>
      refine ⟨{ s with opened := some ⟨k, name :: names⟩ }, ?_, ?_, ?_⟩
      · simp [close_of_not_opened ho]
      · simp
      · simp
    | some a =>
      have ha : a.line < k := hs a (by simp [ho])
      refine ⟨⟨s.symbols ++ sectionBefore lines a k, some ⟨k, name :: names⟩⟩, ?_, ?_, ?_⟩
      · simp [close_of_opened ho ha (Nat.le_of_lt hk)]
      · simp
      · simp [sectionsOf]

/-- The induction is on the lines that are left. -/
theorem foldlM_step_eq (m : Matcher) (lines : List String) :
    ∀ (rest : List String) (k : Nat) (s : Scan), lines.drop k = rest → k ≤ lines.length →
      (∀ a ∈ s.opened, a.line < k) →
      ∃ s', (rest.zipIdx k).foldlM (step m lines.toArray) s = some s' ∧
        (∀ a ∈ s'.opened, a.line < lines.length) ∧
        s'.symbols ++ s'.remaining m lines lines.length = s.symbols ++ s.remaining m lines k
  | [], k, s, hrest, hk, hs => by
    have hk : k = lines.length := by
      have := List.drop_eq_nil_iff.mp hrest
      omega
    subst hk
    exact ⟨s, rfl, hs, rfl⟩
  | line :: rest, k, s, hrest, hk, hs => by
    have hlt : k < lines.length := by
      by_contra hge
      rw [List.drop_eq_nil_of_le (by omega)] at hrest
      cases hrest
    rw [List.drop_eq_getElem_cons hlt] at hrest
    obtain ⟨rfl, htail⟩ := List.cons.inj hrest
    obtain ⟨s₁, hstep, hs₁, heq₁⟩ := step_eq m hlt hs
    obtain ⟨s', hfold, hs', heq⟩ := foldlM_step_eq m lines rest (k + 1) s₁ htail hlt hs₁
    refine ⟨s', ?_, hs', heq.trans heq₁⟩
    rw [List.getD_eq_getElem _ _ hlt] at hstep
    rw [List.zipIdx_cons, List.foldlM_cons, hstep]
    exact hfold

/-- The section that is open behind the last line is the only one still to come. -/
theorem close_end_eq (m : Matcher) {lines : List String} {s : Scan}
    (hs : ∀ a ∈ s.opened, a.line < lines.length) :
    ∃ s', s.close lines.toArray lines.length = some s' ∧
      s'.symbols = s.symbols ++ s.remaining m lines lines.length := by
  unfold remaining
  rw [m.anchorsFrom_length]
  cases ho : s.opened with
  | none => exact ⟨s, close_of_not_opened ho _, by simp [sectionsOf]⟩
  | some a => exact ⟨_, close_of_opened ho (hs a (by simp [ho])) (Nat.le_refl _), by simp [sectionsOf]⟩

end Scan

theorem Matcher.scan?_eq_sectionsOf (m : Matcher) (lines : List String) :
    m.scan? lines = some (sectionsOf lines (m.anchorsFrom lines 0)) := by
  unfold scan?
  split
  next hempty =>
    have hfinders : m.finders = [] := List.isEmpty_iff.mp hempty
    have hnone : m.anchorsFrom lines 0 = [] := by simp [anchorsFrom, isAnchor, hfinders]
    rw [hnone, sectionsOf]
  next =>
    obtain ⟨s, hfold, hs, heq⟩ :=
      Scan.foldlM_step_eq m lines lines 0 {} rfl (Nat.zero_le _) (by simp)
    obtain ⟨s', hclose, hsymbols⟩ := Scan.close_end_eq m hs
    rw [heq] at hsymbols
    simp only [hfold, hclose, Option.bind_eq_bind, Option.bind_some, Option.pure_def, hsymbols]
    simp [Scan.remaining]

/-! ## The sections of increasing anchors -/

/-- Where the section of an anchor ends, the anchors being known by their lines. -/
def endAmong (anchors : List Nat) (lineCount a : Nat) : Nat :=
  match anchors.find? (a < ·) with
  | some next => next
  | none => lineCount

theorem sectionsOf_eq_flatMap (lines : List String) :
    ∀ anchors : List Anchor, (anchors.map Anchor.line).Pairwise (· < ·) →
      sectionsOf lines anchors = anchors.flatMap fun a =>
        sectionBefore lines a (endAmong (anchors.map Anchor.line) lines.length a.line)
  | [], _ => rfl
  | [a], _ => by simp [sectionsOf, endAmong]
  | a :: b :: rest, h => by
    obtain ⟨hlt, htail⟩ := List.pairwise_cons.mp h
    have ih := sectionsOf_eq_flatMap lines (b :: rest) htail
    have hhead : endAmong ((a :: b :: rest).map Anchor.line) lines.length a.line = b.line := by
      have := hlt b.line (by simp)
      simp [endAmong, this]
    -- No anchor behind `a` has `a` as the next one, so `a` can be left out for all of them.
    have hrest : ∀ c ∈ b :: rest, endAmong ((a :: b :: rest).map Anchor.line) lines.length c.line =
        endAmong ((b :: rest).map Anchor.line) lines.length c.line := by
      intro c hc
      have hac : ¬ c.line < a.line := Nat.not_lt_of_gt (hlt c.line (List.mem_map_of_mem hc))
      rw [List.map_cons, endAmong, List.find?_cons_of_neg (by simpa using hac), endAmong]
    calc sectionsOf lines (a :: b :: rest)
        = sectionBefore lines a b.line ++ (b :: rest).flatMap (fun c => sectionBefore lines c
            (endAmong ((b :: rest).map Anchor.line) lines.length c.line)) := by rw [sectionsOf, ih]
      _ = sectionBefore lines a (endAmong ((a :: b :: rest).map Anchor.line) lines.length a.line) ++
            (b :: rest).flatMap (fun c => sectionBefore lines c
              (endAmong ((a :: b :: rest).map Anchor.line) lines.length c.line)) := by
          rw [hhead, List.flatMap_congr fun c hc => by rw [← hrest c hc]]
      _ = _ := by simp only [List.flatMap_cons]

namespace Matcher

theorem pairwise_anchorsFrom (m : Matcher) (lines : List String) (k : Nat) :
    ((m.anchorsFrom lines k).map Anchor.line).Pairwise (· < ·) := by
  simp only [anchorsFrom, List.map_map, Function.comp_def, List.map_id']
  exact List.Pairwise.filter _ List.pairwise_lt_range'

theorem sectionBefore_eq_sectionAt (m : Matcher) (lines : List String) (a : Nat) :
    sectionBefore lines ⟨a, m.matchSet (lines.getD a "")⟩
      (endAmong (m.anchorLines lines) lines.length a) = m.sectionAt lines a := by
  have hlast : m.lastLine lines a = endAmong (m.anchorLines lines) lines.length a - 1 := by
    unfold lastLine endAmong
    split <;> rfl
  simp only [sectionBefore, sectionSymbols, sectionAt, matchSet, List.map_filterMap, hlast]

/-- A scan always succeeds and gives the sections of all anchors. -/
theorem scan?_eq (m : Matcher) (lines : List String) :
    m.scan? lines = some ((m.anchorLines lines).flatMap (m.sectionAt lines)) := by
  rw [scan?_eq_sectionsOf, sectionsOf_eq_flatMap lines _ (m.pairwise_anchorsFrom lines 0),
    ← anchorLines_eq]
  congr 1
  rw [anchorsFrom, List.flatMap_map, Nat.sub_zero, ← List.range_eq_range']
  exact List.flatMap_congr fun a _ => m.sectionBefore_eq_sectionAt lines a

theorem symbols_eq (m : Matcher) (lines : List String) :
    m.symbols lines = (m.anchorLines lines).flatMap (m.sectionAt lines) := by
  rw [symbols, scan?_eq, Option.getD_some]

theorem scan?_eq_some_symbols (m : Matcher) (lines : List String) :
    m.scan? lines = some (m.symbols lines) := by
  rw [scan?_eq, symbols_eq]

end Matcher

/-! ## Extraction -/

theorem eq_ok_of_isOk {ε α : Type} {x : Except ε α} (a : α) (h : x.isOk = true) :
    x = .ok (x.toOption.getD a) := by
  cases x with
  | error e => cases h
  | ok b => rfl

theorem mapM_eq_ok {ε α β : Type} {f : α → Except ε β} {g : α → β} :
    ∀ {xs : List α}, (∀ x ∈ xs, f x = .ok (g x)) → xs.mapM f = .ok (xs.map g)
  | [], _ => rfl
  | x :: xs, h => by
    have hx := h x List.mem_cons_self
    have hxs := mapM_eq_ok fun y hy => h y (List.mem_cons_of_mem x hy)
    rw [List.mapM_cons, hx, hxs]
    rfl

theorem Matcher.ofPatterns_eq_ok {engine : Regex.Engine} {find : String → String → Option String}
    {patterns : List String} (h : ∀ p ∈ patterns, engine p = .ok (find p)) :
    Matcher.ofPatterns engine patterns = .ok ⟨patterns.map find⟩ := by
  have hfinder : ∀ p ∈ patterns, finder engine p = .ok (find p) := by
    intro p hp
    rw [finder, h p hp]
    rfl
  rw [ofPatterns, mapM_eq_ok hfinder]
  rfl

theorem Matcher.anchorLines_eq_nil {m : Matcher} {lines : List String}
    (h : ∀ line ∈ lines, ∀ find ∈ m.finders, find line = none) : m.anchorLines lines = [] := by
  refine List.filter_eq_nil_iff.mpr fun i hi => ?_
  have hlt : i < lines.length := List.mem_range.mp hi
  have hnone := h lines[i] (List.getElem_mem hlt)
  rw [List.getD_eq_getElem _ _ hlt, isAnchor]
  simpa using hnone

/-- Patterns that all compile give the sections of their anchors, whatever it is that they find;
without patterns, lines or anchors there are none. -/
theorem extract_eq_sections (engine : Regex.Engine) (find : String → String → Option String)
    (patterns lines : List String) (h : ∀ p ∈ patterns, engine p = .ok (find p)) :
    let m : Matcher := ⟨patterns.map find⟩
    extract engine patterns lines = .ok ((m.anchorLines lines).flatMap (m.sectionAt lines)) ∧
      (patterns = [] ∨ lines = [] ∨ (∀ line ∈ lines, ∀ p ∈ patterns, find p line = none) →
        extract engine patterns lines = .ok []) := by
  intro m
  have hextract : extract engine patterns lines =
      .ok ((m.anchorLines lines).flatMap (m.sectionAt lines)) := by
    rw [extract, Matcher.ofPatterns_eq_ok h, ← m.symbols_eq]
    rfl
  refine ⟨hextract, fun hempty => ?_⟩
  have hnone : m.anchorLines lines = [] := by
    refine Matcher.anchorLines_eq_nil fun line hline f hf => ?_
    obtain ⟨p, hp, rfl⟩ := List.mem_map.mp hf
    rcases hempty with rfl | rfl | hunmatched
    · cases hp
    · cases hline
    · exact hunmatched line hline p hp
  rw [hextract, hnone, List.flatMap_nil]

/-- Two patterns match the first anchor, one the other, and one pattern none. -/
theorem extract_two_anchors :
    let find := fun p => (Regex.engine p).toOption.getD fun _ => none
    let m : Matcher := ⟨["TODO", "#", "x"].map find⟩
    let lines := ["# TODO", "a", "# b", "é"]
    (∀ p ∈ ["TODO", "#", "x"], Regex.engine p = .ok (find p)) ∧
      extract Regex.engine ["TODO", "#", "x"] lines =
        .ok ((m.anchorLines lines).flatMap (m.sectionAt lines)) ∧
      extract Regex.engine ["TODO", "#", "x"] lines =
        .ok [⟨"TODO", ⟨0, 0, 1, 1⟩⟩, ⟨"#", ⟨0, 0, 1, 1⟩⟩, ⟨"#", ⟨2, 0, 3, 1⟩⟩] := by
  intro find m lines
  have hcompile : ∀ p ∈ ["TODO", "#", "x"], (Regex.engine p).isOk = true := by decide +kernel
  have h : ∀ p ∈ ["TODO", "#", "x"], Regex.engine p = .ok (find p) :=
    fun p hp => eq_ok_of_isOk _ (hcompile p hp)
  exact ⟨h, (extract_eq_sections Regex.engine find _ lines h).1, by cbv⟩

end AnchorOutline
