import AnchorOutline.Proofs.Outline.Ranges

/-!
# More patterns

A pattern that is added to others adds symbols and takes none away. It may split sections, but no
section then reaches over the end of one that was there before. A pattern that matches no line changes
nothing.

* `Matcher.starts_sublist` : the names of symbols, with the lines where these begin;
* `LineRange.Inside` : a range that lies in another one;
* `Matcher.inside_or_before` : where the sections of more patterns lie;
* `Matcher.symbols_congr` : only the matches in the lines count;
* `extract_of_sublist` : all this for pattern lists, one of which is a part of the other.
-/

namespace AnchorOutline

namespace Matcher

variable {few many : Matcher} {lines : List String} {a : Nat}

/-! ## Symbols -/

theorem matchSet_sublist (h : few.finders.Sublist many.finders) (line : String) :
    (few.matchSet line).Sublist (many.matchSet line) :=
  h.filterMap _

theorem isAnchor_mono (h : few.finders.Sublist many.finders) {line : String}
    (hline : few.isAnchor line = true) : many.isAnchor line = true := by
  rw [isAnchor_iff_matchSet_ne_nil] at hline ⊢
  intro hnil
  have hsub := matchSet_sublist h line
  rw [hnil, List.sublist_nil] at hsub
  exact hline hsub

theorem anchorLines_sublist (h : few.finders.Sublist many.finders) (lines : List String) :
    (few.anchorLines lines).Sublist (many.anchorLines lines) := by
  unfold anchorLines
  apply List.monotone_filter_right
  intro i hi
  exact isAnchor_mono h hi

/-- Where more patterns are searched for, the symbols of fewer are found under the same names and at
the same lines, in the same order. -/
theorem starts_sublist (h : few.finders.Sublist many.finders) (lines : List String) :
    ((few.symbols lines).map fun s => (s.name, s.range.startLine)).Sublist
      ((many.symbols lines).map fun s => (s.name, s.range.startLine)) := by
  have hstarts : ∀ (m : Matcher) (a : Nat),
      (m.sectionAt lines a).map (fun s => (s.name, s.range.startLine)) =
        (m.matchSet (lines.getD a "")).map fun name => (name, a) := by
    intro m a
    rw [sectionAt_eq, List.map_map]
    rfl
  rw [symbols_eq, symbols_eq, List.map_flatMap, List.map_flatMap]
  simp only [hstarts]
  have hsections : ∀ a ∈ few.anchorLines lines,
      ((few.matchSet (lines.getD a "")).map fun name => (name, a)).Sublist
        ((many.matchSet (lines.getD a "")).map fun name => (name, a)) :=
    fun a _ => (matchSet_sublist h _).map _
  exact (List.Sublist.flatMap_right _ hsections).trans ((anchorLines_sublist h lines).flatMap _)

end Matcher

/-! ## Sections -/

/-- A range lies in another one: it does not begin before that, nor end behind it. -/
structure LineRange.Inside (r r' : LineRange) : Prop where
  start : r'.startLine < r.startLine ∨ r'.startLine = r.startLine ∧ r'.startCol ≤ r.startCol
  stop : r.endLine < r'.endLine ∨ r.endLine = r'.endLine ∧ r.endCol ≤ r'.endCol

namespace Matcher

variable {few many m m' : Matcher} {lines : List String} {a b : Nat}

/-- A section of more patterns ends where the section of fewer ends that it begins in, or before: what
is behind that is an anchor of more patterns, too. -/
theorem lastLine_le (hsub : few.anchorLines lines ⊆ many.anchorLines lines)
    (ha : a ∈ many.anchorLines lines) (hb : b ∈ few.anchorLines lines)
    (hab : a ≤ few.lastLine lines b) : many.lastLine lines a ≤ few.lastLine lines b := by
  rcases lastLine_next hb with hnext | hnext
  · have := lastLine_lt ha (hsub hnext) (by omega)
    omega
  · have := lastLine_lt_length ha
    omega

/-- A section of more patterns lies in a section of fewer patterns, or before all of them. -/
theorem inside_or_before (hsub : few.anchorLines lines ⊆ many.anchorLines lines)
    (ha : a ∈ many.anchorLines lines) :
    (∃ b ∈ few.anchorLines lines, (many.rangeAt lines a).Inside (few.rangeAt lines b)) ∨
      ∀ b ∈ few.anchorLines lines, many.lastLine lines a < b := by
  by_cases hbehind : ∃ b ∈ few.anchorLines lines, b ≤ a
  · left
    obtain ⟨b, hb, hba⟩ := hbehind
    obtain ⟨c, hc, hca, hac⟩ := exists_section_of_le hb (mem_anchorLines.mp ha).1 hba
    refine ⟨c, hc, ?_, ?_⟩
    · show c < a ∨ c = a ∧ 0 ≤ 0
      omega
    · rcases Nat.lt_or_eq_of_le (lastLine_le hsub ha hc hac) with hlt | heq
      · exact .inl hlt
      · refine .inr ⟨heq, Nat.le_of_eq ?_⟩
        simp only [rangeAt, heq]
  · right
    intro b hb
    apply lastLine_lt ha (hsub hb)
    by_contra hle
    exact hbehind ⟨b, hb, by omega⟩

theorem exists_symbol (ha : a ∈ m.anchorLines lines) :
    ∃ s ∈ m.symbols lines, s.range = m.rangeAt lines a := by
  obtain ⟨name, hname⟩ := List.exists_mem_of_ne_nil _ (mem_anchorLines.mp ha).2
  refine ⟨⟨name, m.rangeAt lines a⟩, ?_, rfl⟩
  rw [symbols_eq, List.mem_flatMap]
  refine ⟨a, ha, ?_⟩
  rw [sectionAt_eq]
  exact List.mem_map_of_mem hname

/-! ## Patterns without matches -/

theorem anchorLines_congr (h : ∀ line ∈ lines, m.matchSet line = m'.matchSet line) :
    m.anchorLines lines = m'.anchorLines lines := by
  unfold anchorLines
  apply List.filter_congr
  intro i hi
  have hline : lines.getD i "" ∈ lines := by
    rw [List.getD_eq_getElem _ _ (List.mem_range.mp hi)]
    exact List.getElem_mem _
  rw [Bool.eq_iff_iff, isAnchor_iff_matchSet_ne_nil, isAnchor_iff_matchSet_ne_nil, h _ hline]

theorem symbols_congr (h : ∀ line ∈ lines, m.matchSet line = m'.matchSet line) :
    m.symbols lines = m'.symbols lines := by
  have hanchors := anchorLines_congr h
  have hlast : m.lastLine lines = m'.lastLine lines := by
    funext a
    unfold lastLine
    rw [hanchors]
  rw [symbols_eq, symbols_eq, ← hanchors]
  apply List.flatMap_congr
  intro a ha
  have hlength : a < lines.length := (mem_anchorLines.mp ha).1
  rw [sectionAt_eq, sectionAt_eq, rangeAt, rangeAt, hlast, List.getD_eq_getElem _ _ hlength,
    h _ (List.getElem_mem hlength)]

theorem matchSet_marked {find : String → String → Option String} {marked : List (String × Bool)}
    {line : String} (h : ∀ p, (p, false) ∈ marked → find p line = none) :
    matchSet ⟨((marked.filter Prod.snd).map Prod.fst).map find⟩ line =
      matchSet ⟨(marked.map Prod.fst).map find⟩ line := by
  simp only [matchSet, List.filterMap_map, List.filterMap_filter]
  apply List.filterMap_congr
  intro x hx
  obtain ⟨p, taken⟩ := x
  cases taken with
  | true => rfl
  | false => exact (h p hx).symm

end Matcher

/-! ## Pattern lists -/

theorem extract_eq_symbols {engine : Regex.Engine} {find : String → String → Option String}
    {patterns : List String} (h : ∀ p ∈ patterns, engine p = .ok (find p)) (lines : List String) :
    extract engine patterns lines = .ok ((⟨patterns.map find⟩ : Matcher).symbols lines) := by
  rw [extract, Matcher.ofPatterns_eq_ok h]
  rfl

/-- Some patterns are taken from a list of patterns that all compile. Their symbols are among those of
the whole list, under the same names and at the same lines. A section of the whole list lies in a
section of theirs, or ends before the first of these. If the patterns that are not taken match no line,
the symbols are the same; the patterns are marked then by whether they are taken. -/
theorem extract_of_sublist (engine : Regex.Engine) (find : String → String → Option String)
    {taken patterns : List String} (lines : List String)
    (hcompile : ∀ p ∈ patterns, engine p = .ok (find p)) (hsub : taken.Sublist patterns) :
    ∃ few many, extract engine taken lines = .ok few ∧ extract engine patterns lines = .ok many ∧
      (few.map fun s => (s.name, s.range.startLine)).Sublist
        (many.map fun s => (s.name, s.range.startLine)) ∧
      (∀ s ∈ many, (∃ s' ∈ few, s.range.Inside s'.range) ∨
        ∀ s' ∈ few, s.range.endLine < s'.range.startLine) ∧
      ∀ marked : List (String × Bool), marked.map Prod.fst = patterns →
        (marked.filter Prod.snd).map Prod.fst = taken →
        (∀ p, (p, false) ∈ marked → ∀ line ∈ lines, find p line = none) → few = many := by
  have hfinders : (taken.map find).Sublist (patterns.map find) := hsub.map find
  have hanchors : (⟨taken.map find⟩ : Matcher).anchorLines lines ⊆
      (⟨patterns.map find⟩ : Matcher).anchorLines lines :=
    (Matcher.anchorLines_sublist hfinders lines).subset
  refine ⟨_, _, extract_eq_symbols (fun p hp => hcompile p (hsub.subset hp)) lines,
    extract_eq_symbols hcompile lines, Matcher.starts_sublist hfinders lines, ?_, ?_⟩
  · intro s hs
    obtain ⟨hstart, hrange⟩ := Matcher.mem_symbols hs
    rw [hrange]
    rcases Matcher.inside_or_before hanchors hstart with ⟨b, hb, hinside⟩ | hbefore
    · left
      obtain ⟨s', hs', hrange'⟩ := Matcher.exists_symbol hb
      exact ⟨s', hs', hrange' ▸ hinside⟩
    · right
      intro s' hs'
      exact hbefore _ (Matcher.mem_symbols hs').1
  · rintro marked rfl rfl hnone
    apply Matcher.symbols_congr
    intro line hline
    exact Matcher.matchSet_marked fun p hp => hnone p hp line hline

/-- A second pattern splits the one section and opens another above it; a third one is found nowhere. -/
theorem extract_of_sublist_split_section :
    let find := fun p => (Regex.engine p).toOption.getD fun _ => none
    let lines := ["TODO", "# a", "TODO", "é"]
    (∀ p ∈ ["TODO", "#", "x"], Regex.engine p = .ok (find p)) ∧
      ["#"].Sublist ["TODO", "#"] ∧ ["TODO", "#"].Sublist ["TODO", "#", "x"] ∧
      extract Regex.engine ["#"] lines = .ok [⟨"#", ⟨1, 0, 3, 1⟩⟩] ∧
      extract Regex.engine ["TODO", "#"] lines =
        .ok [⟨"TODO", ⟨0, 0, 0, 4⟩⟩, ⟨"#", ⟨1, 0, 1, 3⟩⟩, ⟨"TODO", ⟨2, 0, 3, 1⟩⟩] ∧
      LineRange.Inside ⟨2, 0, 3, 1⟩ ⟨1, 0, 3, 1⟩ ∧
      extract Regex.engine ["TODO", "#", "x"] lines = extract Regex.engine ["TODO", "#"] lines := by
  intro find lines
  have hcompile : ∀ p ∈ ["TODO", "#", "x"], (Regex.engine p).isOk = true := by decide +kernel
  have h : ∀ p ∈ ["TODO", "#", "x"], Regex.engine p = .ok (find p) :=
    fun p hp => eq_ok_of_isOk _ (hcompile p hp)
  have hsub : ["TODO", "#"].Sublist ["TODO", "#", "x"] := by decide
  have hfew : extract Regex.engine ["#"] lines = .ok [⟨"#", ⟨1, 0, 3, 1⟩⟩] := by
    dsimp only [lines]
    cbv
  have hmany : extract Regex.engine ["TODO", "#"] lines =
      .ok [⟨"TODO", ⟨0, 0, 0, 4⟩⟩, ⟨"#", ⟨1, 0, 1, 3⟩⟩, ⟨"TODO", ⟨2, 0, 3, 1⟩⟩] := by
    dsimp only [lines]
    cbv
  have hnone : ∀ line ∈ lines, find "x" line = none := by
    have hfound : lines.filterMap (find "x") = [] := by
      dsimp only [lines, find]
      cbv
    exact List.filterMap_eq_nil_iff.mp hfound
  obtain ⟨few, many, hfew', hmany', -, hinside, -⟩ := extract_of_sublist Regex.engine find lines
    (fun p hp => h p (hsub.subset hp)) (show ["#"].Sublist ["TODO", "#"] by decide)
  cases Except.ok.inj (hfew.symm.trans hfew')
  cases Except.ok.inj (hmany.symm.trans hmany')
  obtain ⟨two, three, htwo, hthree, -, -, hsame⟩ := extract_of_sublist Regex.engine find lines h hsub
  obtain rfl : two = three := by
    refine hsame [("TODO", true), ("#", true), ("x", false)] rfl rfl fun p hp => ?_
    obtain rfl : p = "x" := by simpa using hp
    exact hnone
  refine ⟨h, by decide, hsub, hfew, hmany, ?_, hthree.trans htwo.symm⟩
  rcases hinside ⟨"TODO", ⟨2, 0, 3, 1⟩⟩ (by simp) with ⟨s', hs', hinside⟩ | hbefore
  · obtain rfl := List.mem_singleton.mp hs'
    exact hinside
  · have := hbefore ⟨"#", ⟨1, 0, 3, 1⟩⟩ (by simp)
    simp at this

end AnchorOutline
