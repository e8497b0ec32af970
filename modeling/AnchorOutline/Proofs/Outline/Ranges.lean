import AnchorOutline.Proofs.Outline.Sections

/-!
# The ranges of sections

The sections of a scan lie one behind the other, without a gap, from the first anchor to the last
line. Each has its anchor as its first line, and no other anchor in it.

* `Matcher.rangeAt` : the range of the section of an anchor;
* `Matcher.le_lastLine`, `Matcher.lastLine_lt`, `Matcher.lastLine_next` : a section ends before the
  next anchor, and right before it, or with the last line;
* `Matcher.lastLine_eq` : nothing else does so;
* `Matcher.exists_section_of_le` : every line from the first anchor on is in some section;
* `Matcher.Divides` : ranges that divide the lines from the first anchor on;
* `Matcher.scan?_divides` : a scan succeeds, and the distinct ranges that it gives out do so.
-/

namespace AnchorOutline

namespace Matcher

variable {m : Matcher} {lines : List String} {a b i : Nat}

/-! ## Anchors -/

theorem mem_anchorLines :
    a ∈ m.anchorLines lines ↔ a < lines.length ∧ m.matchSet (lines.getD a "") ≠ [] := by
  rw [anchorLines, List.mem_filter, List.mem_range, isAnchor_iff_matchSet_ne_nil]

theorem pairwise_anchorLines (m : Matcher) (lines : List String) :
    (m.anchorLines lines).Pairwise (· < ·) :=
  List.Pairwise.filter _ List.pairwise_lt_range

theorem sides_of_split {before after : List Nat}
    (hsplit : m.anchorLines lines = before ++ a :: after) :
    (∀ b ∈ before, b < a) ∧ ∀ b ∈ after, a < b := by
  have hsorted := m.pairwise_anchorLines lines
  rw [hsplit] at hsorted
  obtain ⟨-, hafter, hbefore⟩ := List.pairwise_append.mp hsorted
  exact ⟨fun b hb => hbefore b hb a List.mem_cons_self, (List.pairwise_cons.mp hafter).1⟩

/-! ## Where a section ends -/

theorem lastLine_cases (ha : a ∈ m.anchorLines lines) :
    (m.lastLine lines a + 1 ∈ m.anchorLines lines ∧ a < m.lastLine lines a + 1 ∧
        ∀ b ∈ m.anchorLines lines, a < b → m.lastLine lines a + 1 ≤ b) ∨
      m.lastLine lines a + 1 = lines.length ∧ ∀ b ∈ m.anchorLines lines, b ≤ a := by
  unfold lastLine
  cases hnext : (m.anchorLines lines).find? (a < ·) with
  | none =>
    right
    have hlength : a < lines.length := (mem_anchorLines.mp ha).1
    refine ⟨by simp only; omega, fun b hb => ?_⟩
    have hb := List.find?_eq_none.mp hnext b hb
    simpa using hb
  | some next =>
    left
    obtain ⟨hlt, before, after, hsplit, hbefore⟩ := List.find?_eq_some_iff_append.mp hnext
    have hlt : a < next := by simpa using hlt
    have hnext' : next - 1 + 1 = next := by omega
    simp only [hnext']
    refine ⟨List.mem_of_find?_eq_some hnext, hlt, fun b hb hab => ?_⟩
    have hsides := sides_of_split hsplit
    rw [hsplit, List.mem_append, List.mem_cons] at hb
    rcases hb with hb | rfl | hb
    · have hb := hbefore b hb
      simp only [Bool.not_eq_true', decide_eq_false_iff_not] at hb
      exact absurd hab hb
    · exact Nat.le_refl _
    · exact Nat.le_of_lt (hsides.2 b hb)

theorem le_lastLine (ha : a ∈ m.anchorLines lines) : a ≤ m.lastLine lines a := by
  have hlength : a < lines.length := (mem_anchorLines.mp ha).1
  rcases lastLine_cases ha with ⟨-, hlt, -⟩ | ⟨hlast, -⟩ <;> omega

theorem lastLine_lt_length (ha : a ∈ m.anchorLines lines) :
    m.lastLine lines a < lines.length := by
  rcases lastLine_cases ha with ⟨hnext, -⟩ | ⟨hlast, -⟩
  · have := (mem_anchorLines.mp hnext).1
    omega
  · omega

theorem lastLine_lt (ha : a ∈ m.anchorLines lines) (hb : b ∈ m.anchorLines lines) (hab : a < b) :
    m.lastLine lines a < b := by
  rcases lastLine_cases ha with ⟨-, -, hle⟩ | ⟨-, hle⟩
  · have := hle b hb hab
    omega
  · have := hle b hb
    omega

theorem lastLine_next (ha : a ∈ m.anchorLines lines) :
    m.lastLine lines a + 1 ∈ m.anchorLines lines ∨ m.lastLine lines a + 1 = lines.length :=
  (lastLine_cases ha).imp And.left And.left

/-- Where a section ends is known by what is behind it. -/
theorem lastLine_eq {last : Nat} (ha : a ∈ m.anchorLines lines)
    (hbefore : ∀ b ∈ m.anchorLines lines, a < b → last < b) (hle : a ≤ last)
    (hlength : last < lines.length)
    (hnext : last + 1 ∈ m.anchorLines lines ∨ last + 1 = lines.length) :
    m.lastLine lines a = last := by
  have hle' := le_lastLine ha
  have hlength' := lastLine_lt_length ha
  rcases Nat.lt_trichotomy (m.lastLine lines a) last with hlt | heq | hlt
  · rcases lastLine_next ha with hnext' | hnext'
    · have := hbefore _ hnext' (by omega)
      omega
    · omega
  · exact heq
  · rcases hnext with hnext | hnext
    · have := lastLine_lt ha hnext (by omega)
      omega
    · omega

/-- A line behind an anchor is in a section. The induction goes back from the line to the anchor of its
section. -/
theorem exists_section_of_le (hb : b ∈ m.anchorLines lines) (hi : i < lines.length) (hbi : b ≤ i) :
    ∃ a ∈ m.anchorLines lines, a ≤ i ∧ i ≤ m.lastLine lines a := by
  induction i with
  | zero =>
    obtain rfl : b = 0 := by omega
    exact ⟨0, hb, Nat.le_refl 0, Nat.zero_le _⟩
  | succ i ih =>
    by_cases hanchor : i + 1 ∈ m.anchorLines lines
    · exact ⟨i + 1, hanchor, Nat.le_refl _, le_lastLine hanchor⟩
    have hne : b ≠ i + 1 := by
      rintro rfl
      exact hanchor hb
    obtain ⟨a, ha, hai, hlast⟩ := ih (by omega) (by omega)
    have hgoes : m.lastLine lines a ≠ i := by
      intro hends
      have hnext := lastLine_next ha
      rw [hends] at hnext
      rcases hnext with hnext | hnext
      · exact hanchor hnext
      · omega
    exact ⟨a, ha, by omega, by omega⟩

theorem section_unique (ha : a ∈ m.anchorLines lines) (hb : b ∈ m.anchorLines lines) (hai : a ≤ i)
    (hia : i ≤ m.lastLine lines a) (hbi : b ≤ i) (hib : i ≤ m.lastLine lines b) : a = b := by
  rcases Nat.lt_trichotomy a b with hlt | rfl | hlt
  · have := lastLine_lt ha hb hlt
    omega
  · rfl
  · have := lastLine_lt hb ha hlt
    omega

theorem eq_of_mem_section (ha : a ∈ m.anchorLines lines) (hi : i ∈ m.anchorLines lines) (hai : a ≤ i)
    (hia : i ≤ m.lastLine lines a) : i = a :=
  section_unique hi ha (Nat.le_refl i) (le_lastLine hi) hai hia

/-! ## Ranges -/

/-- The range of the section of an anchor. -/
def rangeAt (m : Matcher) (lines : List String) (a : Nat) : LineRange :=
  ⟨a, 0, m.lastLine lines a, (lines.getD (m.lastLine lines a) "").length⟩

theorem sectionAt_eq (m : Matcher) (lines : List String) (a : Nat) :
    m.sectionAt lines a =
      (m.matchSet (lines.getD a "")).map fun name => ⟨name, m.rangeAt lines a⟩ := by
  simp only [sectionAt, matchSet, List.map_filterMap, rangeAt]

theorem mem_symbols {s : Symbol} (hs : s ∈ m.symbols lines) :
    s.range.startLine ∈ m.anchorLines lines ∧ s.range = m.rangeAt lines s.range.startLine := by
  rw [symbols_eq] at hs
  obtain ⟨a, ha, hs⟩ := List.mem_flatMap.mp hs
  rw [sectionAt_eq] at hs
  obtain ⟨name, -, rfl⟩ := List.mem_map.mp hs
  exact ⟨ha, rfl⟩

/-- Runs of equal elements come to one element each. -/
theorem dedup_flatMap {α β : Type} [DecidableEq β] {f : α → List β} {g : α → β} :
    ∀ {xs : List α}, (∀ x ∈ xs, f x ≠ []) → (∀ x ∈ xs, ∀ y ∈ f x, y = g x) → (xs.map g).Nodup →
      (xs.flatMap f).dedup = xs.map g
  | [], _, _, _ => rfl
  | x :: xs, hne, heq, hnodup => by
    have ih := dedup_flatMap (fun y hy => hne y (List.mem_cons_of_mem x hy))
      (fun y hy => heq y (List.mem_cons_of_mem x hy)) (List.nodup_cons.mp hnodup).2
    have hrun : f x = List.replicate (f x).length (g x) :=
      List.eq_replicate_iff.mpr ⟨rfl, heq x List.mem_cons_self⟩
    have hlength : (f x).length ≠ 0 := by simpa using hne x List.mem_cons_self
    have hdisjoint : (f x).Disjoint (xs.map g) := by
      intro y hy hmem
      obtain rfl := heq x List.mem_cons_self y hy
      exact (List.nodup_cons.mp hnodup).1 hmem
    rw [List.flatMap_cons, List.dedup_append, ih, hdisjoint.union_eq, hrun,
      List.replicate_dedup hlength]
    rfl

/-- The distinct ranges of a scan are those of its anchors. -/
theorem dedup_ranges (m : Matcher) (lines : List String) :
    ((m.symbols lines).map Symbol.range).dedup = (m.anchorLines lines).map (m.rangeAt lines) := by
  rw [symbols_eq, List.map_flatMap]
  apply dedup_flatMap
  · intro a ha hnil
    rw [sectionAt_eq] at hnil
    exact (mem_anchorLines.mp ha).2 (by simpa using hnil)
  · intro a _ r hr
    rw [sectionAt_eq] at hr
    simp only [List.map_map, List.mem_map, Function.comp_def] at hr
    obtain ⟨name, -, rfl⟩ := hr
    rfl
  · have hstarts : (((m.anchorLines lines).map (m.rangeAt lines)).map LineRange.startLine).Nodup := by
      rw [List.map_map]
      exact ((m.pairwise_anchorLines lines).imp Nat.ne_of_lt).map _ fun a b hab => hab
    exact hstarts.of_map

/-! ## Divided lines -/

/-- Ranges that divide the lines from the first anchor to the last line, each with an anchor as its
first line and no other one in it. -/
structure Divides (m : Matcher) (lines : List String) (ranges : List LineRange) : Prop where
  inside : ∀ r ∈ ranges, r.startLine ≤ r.endLine ∧ r.endLine < lines.length
  increasing : ranges.Pairwise fun r r' => r.endLine < r'.startLine
  next : ranges.IsChain fun r r' => r'.startLine = r.endLine + 1
  first : ranges.head?.map LineRange.startLine = lines.findIdx? fun line => m.matchSet line ≠ []
  last : ∀ r ∈ ranges.getLast?, r.endLine = lines.length - 1
  anchor : ∀ r ∈ ranges, ∀ i, r.startLine ≤ i → i ≤ r.endLine →
    (m.matchSet (lines.getD i "") ≠ [] ↔ i = r.startLine)
  covered : ∀ b i, b ≤ i → i < lines.length → m.matchSet (lines.getD b "") ≠ [] →
    ∃! r, r ∈ ranges ∧ r.startLine ≤ i ∧ i ≤ r.endLine

theorem isChain_rangeAt (m : Matcher) (lines : List String) :
    ((m.anchorLines lines).map (m.rangeAt lines)).IsChain
      fun r r' => r'.startLine = r.endLine + 1 := by
  rw [List.isChain_map, List.isChain_iff_forall_rel_of_append_cons_cons]
  intro a b before after hsplit
  show b = m.lastLine lines a + 1
  have ha : a ∈ m.anchorLines lines := by simp [hsplit]
  have hb : b ∈ m.anchorLines lines := by simp [hsplit]
  have hsplit' : m.anchorLines lines = (before ++ [a]) ++ b :: after := by simp [hsplit]
  obtain ⟨hbefore, hrest⟩ := sides_of_split hsplit
  obtain ⟨-, hafter⟩ := sides_of_split hsplit'
  have hlt := lastLine_lt ha hb (hrest b List.mem_cons_self)
  have hle := le_lastLine ha
  have hlength := (mem_anchorLines.mp hb).1
  have hnext : m.lastLine lines a + 1 ∈ before ++ a :: b :: after := by
    rw [← hsplit]
    exact (lastLine_next ha).resolve_right (by omega)
  simp only [List.mem_append, List.mem_cons] at hnext
  rcases hnext with hnext | hnext | hnext | hnext
  · have := hbefore _ hnext
    omega
  · omega
  · exact hnext.symm
  · have := hafter _ hnext
    omega

theorem head?_anchorLines (m : Matcher) (lines : List String) :
    (m.anchorLines lines).head? = lines.findIdx? fun line => m.matchSet line ≠ [] := by
  cases hanchors : m.anchorLines lines with
  | nil =>
    symm
    rw [List.head?_nil, List.findIdx?_eq_none_iff]
    intro line hline
    obtain ⟨i, hi, rfl⟩ := List.getElem_of_mem hline
    by_contra hmatch
    have hanchor : i ∈ m.anchorLines lines := by
      rw [mem_anchorLines, List.getD_eq_getElem _ _ hi]
      exact ⟨hi, by simpa using hmatch⟩
    rw [hanchors] at hanchor
    cases hanchor
  | cons a rest =>
    symm
    rw [List.head?_cons, List.findIdx?_eq_some_iff_getElem]
    have ha : a ∈ m.anchorLines lines := by simp [hanchors]
    obtain ⟨hlength, hmatch⟩ := mem_anchorLines.mp ha
    rw [List.getD_eq_getElem _ _ hlength] at hmatch
    refine ⟨hlength, by simpa using hmatch, fun j hj hmatch' => ?_⟩
    have hanchor : j ∈ m.anchorLines lines := by
      rw [mem_anchorLines, List.getD_eq_getElem _ _ (Nat.lt_trans hj hlength)]
      exact ⟨Nat.lt_trans hj hlength, by simpa using hmatch'⟩
    rw [hanchors] at hanchor
    rcases List.mem_cons.mp hanchor with rfl | hmem
    · omega
    · have := (sides_of_split (hanchors.trans (List.nil_append _).symm)).2 j hmem
      omega

theorem divides_rangeAt (m : Matcher) (lines : List String) :
    m.Divides lines ((m.anchorLines lines).map (m.rangeAt lines)) where
  inside := by
    intro r hr
    obtain ⟨a, ha, rfl⟩ := List.mem_map.mp hr
    exact ⟨le_lastLine ha, lastLine_lt_length ha⟩
  increasing := by
    rw [List.pairwise_map]
    exact (m.pairwise_anchorLines lines).imp_of_mem fun ha hb hab => lastLine_lt ha hb hab
  next := m.isChain_rangeAt lines
  first := by
    rw [← head?_anchorLines, List.head?_map, Option.map_map]
    simp [Function.comp_def, rangeAt]
  last := by
    intro r hr
    rw [List.getLast?_map] at hr
    obtain ⟨a, hlast, rfl⟩ := Option.map_eq_some_iff.mp hr
    obtain ⟨before, hsplit⟩ := List.getLast?_eq_some_iff.mp hlast
    have ha : a ∈ m.anchorLines lines := by simp [hsplit]
    have hle := le_lastLine ha
    show m.lastLine lines a = lines.length - 1
    rcases lastLine_next ha with hnext | hnext
    · rw [hsplit] at hnext
      rcases List.mem_append.mp hnext with hmem | hmem
      · have := (sides_of_split hsplit).1 _ hmem
        omega
      · have := List.mem_singleton.mp hmem
        omega
    · omega
  anchor := by
    intro r hr i hstart hend
    obtain ⟨a, ha, rfl⟩ := List.mem_map.mp hr
    constructor
    · intro hmatch
      have hlength : i < lines.length := Nat.lt_of_le_of_lt hend (lastLine_lt_length ha)
      exact eq_of_mem_section ha (mem_anchorLines.mpr ⟨hlength, hmatch⟩) hstart hend
    · rintro rfl
      exact (mem_anchorLines.mp ha).2
  covered := by
    intro b i hbi hi hmatch
    have hb : b ∈ m.anchorLines lines := mem_anchorLines.mpr ⟨Nat.lt_of_le_of_lt hbi hi, hmatch⟩
    obtain ⟨a, ha, hai, hia⟩ := exists_section_of_le hb hi hbi
    refine ⟨m.rangeAt lines a, ⟨List.mem_map_of_mem ha, hai, hia⟩, ?_⟩
    rintro r ⟨hr, hstart, hend⟩
    obtain ⟨a', ha', rfl⟩ := List.mem_map.mp hr
    rw [section_unique ha' ha hstart hend hai hia]

theorem pairwise_startLine (m : Matcher) (lines : List String) :
    ((m.symbols lines).map (·.range.startLine)).Pairwise (· ≤ ·) := by
  have hstart : ∀ a, ∀ n ∈ (m.sectionAt lines a).map (·.range.startLine), n = a := by
    intro a n hn
    rw [sectionAt_eq, List.map_map] at hn
    obtain ⟨name, -, rfl⟩ := List.mem_map.mp hn
    rfl
  rw [symbols_eq, List.map_flatMap, List.pairwise_flatMap]
  constructor
  · intro a _
    refine List.pairwise_of_forall_mem_list fun x hx y hy => ?_
    rw [hstart a x hx, hstart a y hy]
  · refine (m.pairwise_anchorLines lines).imp fun {a b} hab x hx y hy => ?_
    rw [hstart a x hx, hstart b y hy]
    exact Nat.le_of_lt hab

/-- No section closes where there is no line. The symbols come in the order of their sections, and the
distinct ranges of these divide the lines from the first anchor to the last line. -/
theorem scan?_divides (m : Matcher) (lines : List String) :
    ∃ symbols, m.scan? lines = some symbols ∧
      (symbols.map (·.range.startLine)).Pairwise (· ≤ ·) ∧
      m.Divides lines (symbols.map Symbol.range).dedup := by
  refine ⟨m.symbols lines, m.scan?_eq_some_symbols lines, m.pairwise_startLine lines, ?_⟩
  rw [dedup_ranges]
  exact m.divides_rangeAt lines

end Matcher

end AnchorOutline
