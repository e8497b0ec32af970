import AnchorOutline.Proofs.Outline.Ranges

/-!
# Texts that are joined

Where a text goes on with an anchor, its sections so far are not changed by what follows, and the
sections that follow are not changed by what was there before, but for the numbers of their lines.

* `Symbol.shift` : a symbol so many lines further down;
* `Matcher.lastLine_append_left`, `Matcher.lastLine_append_right` : sections end where they ended;
* `Matcher.symbols_append` : the symbols of the joined lines;
* `Matcher.scan?_append` : a scan of the joined lines.
-/

namespace AnchorOutline

def Symbol.shift (count : Nat) (s : Symbol) : Symbol :=
  { s with range := { s.range with
      startLine := s.range.startLine + count
      endLine := s.range.endLine + count } }

namespace Matcher

variable {m : Matcher} {before after : List String} {a b : Nat}

/-! ## Anchors -/

theorem getD_append_add (before after : List String) (i : Nat) :
    (before ++ after).getD (i + before.length) "" = after.getD i "" := by
  rw [List.getD_append_right _ _ _ _ (Nat.le_add_left _ _), Nat.add_sub_cancel]

theorem mem_anchorLines_append_left (ha : a < before.length) :
    a ∈ m.anchorLines (before ++ after) ↔ a ∈ m.anchorLines before := by
  have hlength : a < (before ++ after).length := by
    rw [List.length_append]
    omega
  rw [mem_anchorLines, mem_anchorLines, List.getD_append _ _ _ _ ha]
  simp only [ha, hlength, true_and]

theorem mem_anchorLines_append_right :
    b + before.length ∈ m.anchorLines (before ++ after) ↔ b ∈ m.anchorLines after := by
  have hlength : b + before.length < (before ++ after).length ↔ b < after.length := by
    rw [List.length_append]
    omega
  rw [mem_anchorLines, mem_anchorLines, getD_append_add, hlength]

theorem anchorLines_append (m : Matcher) (before after : List String) :
    m.anchorLines (before ++ after) =
      m.anchorLines before ++ (m.anchorLines after).map (· + before.length) := by
  have hsame : (List.range before.length).filter
      (fun i => m.isAnchor ((before ++ after).getD i "")) = m.anchorLines before := by
    apply List.filter_congr
    intro i hi
    rw [List.getD_append _ _ _ _ (List.mem_range.mp hi)]
  have hshift : (fun i => before.length + i) = (· + before.length) := by
    funext i
    exact Nat.add_comm _ _
  rw [anchorLines, List.length_append, List.range_add, List.filter_append, hsame, List.filter_map,
    hshift]
  simp only [Function.comp_def, getD_append_add]
  rfl

/-! ## Sections -/

/-- The last section so far ends where it would end without what follows, as this begins with an
anchor. -/
theorem lastLine_append_left (hafter : 0 ∈ m.anchorLines after) (ha : a ∈ m.anchorLines before) :
    m.lastLine (before ++ after) a = m.lastLine before a := by
  have hlength : a < before.length := (mem_anchorLines.mp ha).1
  have hlast := lastLine_lt_length ha
  have hjoined : (before ++ after).length = before.length + after.length := List.length_append
  apply lastLine_eq ((mem_anchorLines_append_left hlength).mpr ha)
  · intro b hb hab
    by_cases hinside : b < before.length
    · exact lastLine_lt ha ((mem_anchorLines_append_left hinside).mp hb) hab
    · omega
  · exact le_lastLine ha
  · omega
  · left
    rcases lastLine_next ha with hnext | hnext
    · exact (mem_anchorLines_append_left (mem_anchorLines.mp hnext).1).mpr hnext
    · have hfirst : 0 + before.length ∈ m.anchorLines (before ++ after) :=
        mem_anchorLines_append_right.mpr hafter
      rwa [Nat.zero_add, ← hnext] at hfirst

/-- What follows ends where it ended, further down. -/
theorem lastLine_append_right (hb : b ∈ m.anchorLines after) :
    m.lastLine (before ++ after) (b + before.length) = m.lastLine after b + before.length := by
  have hle := le_lastLine hb
  have hlast := lastLine_lt_length hb
  have hjoined : (before ++ after).length = before.length + after.length := List.length_append
  apply lastLine_eq (mem_anchorLines_append_right.mpr hb)
  · intro c hc hbc
    obtain ⟨c, rfl⟩ : ∃ c', c = c' + before.length := ⟨c - before.length, by omega⟩
    have := lastLine_lt hb (mem_anchorLines_append_right.mp hc) (by omega)
    omega
  · omega
  · omega
  · rcases lastLine_next hb with hnext | hnext
    · left
      have hshifted : m.lastLine after b + 1 + before.length ∈ m.anchorLines (before ++ after) :=
        mem_anchorLines_append_right.mpr hnext
      rwa [Nat.add_right_comm] at hshifted
    · right
      omega

theorem sectionAt_append_left (hafter : 0 ∈ m.anchorLines after) (ha : a ∈ m.anchorLines before) :
    m.sectionAt (before ++ after) a = m.sectionAt before a := by
  have hlength : a < before.length := (mem_anchorLines.mp ha).1
  rw [sectionAt_eq, sectionAt_eq, rangeAt, rangeAt, lastLine_append_left hafter ha,
    List.getD_append _ _ _ _ hlength, List.getD_append _ _ _ _ (lastLine_lt_length ha)]

theorem sectionAt_append_right (hb : b ∈ m.anchorLines after) :
    m.sectionAt (before ++ after) (b + before.length) =
      (m.sectionAt after b).map (Symbol.shift before.length) := by
  rw [sectionAt_eq, sectionAt_eq, rangeAt, rangeAt, lastLine_append_right hb, getD_append_add,
    getD_append_add, List.map_map]
  rfl

/-! ## Symbols -/

theorem symbols_append (hafter : 0 ∈ m.anchorLines after) :
    m.symbols (before ++ after) =
      m.symbols before ++ (m.symbols after).map (Symbol.shift before.length) := by
  have habove : (m.anchorLines before).flatMap (m.sectionAt (before ++ after)) =
      m.symbols before := by
    rw [symbols_eq]
    exact List.flatMap_congr fun a ha => sectionAt_append_left hafter ha
  have hbelow : ((m.anchorLines after).map (· + before.length)).flatMap
      (m.sectionAt (before ++ after)) = (m.symbols after).map (Symbol.shift before.length) := by
    rw [symbols_eq, List.flatMap_map, List.map_flatMap]
    exact List.flatMap_congr fun b hb => sectionAt_append_right hb
  rw [symbols_eq, anchorLines_append, List.flatMap_append, habove, hbelow]

/-- Where a text goes on with an anchor, its symbols are those that it had so far, and those of what
follows, further down. So the sections that begin before the anchor are the same whatever follows, and
those that begin from there on are the same, but for their lines, whatever was before. -/
theorem scan?_append (m : Matcher) (before rest : List String) (line : String)
    (hline : m.matchSet line ≠ []) :
    ∃ above below joined, m.scan? before = some above ∧ m.scan? (line :: rest) = some below ∧
      m.scan? (before ++ line :: rest) = some joined ∧
      joined = above ++ below.map (Symbol.shift before.length) ∧
      joined.filter (·.range.startLine < before.length) = above ∧
      joined.filter (before.length ≤ ·.range.startLine) =
        below.map (Symbol.shift before.length) := by
  have hfirst : 0 ∈ m.anchorLines (line :: rest) := mem_anchorLines.mpr ⟨Nat.succ_pos _, hline⟩
  have habove : ∀ s ∈ m.symbols before, s.range.startLine < before.length :=
    fun s hs => (mem_anchorLines.mp (mem_symbols hs).1).1
  have hbelow : ∀ s ∈ (m.symbols (line :: rest)).map (Symbol.shift before.length),
      before.length ≤ s.range.startLine := by
    intro s hs
    obtain ⟨s', -, rfl⟩ := List.mem_map.mp hs
    exact Nat.le_add_left _ _
  refine ⟨_, _, _, m.scan?_eq_some_symbols _, m.scan?_eq_some_symbols _, m.scan?_eq_some_symbols _,
    symbols_append hfirst, ?_, ?_⟩
  · rw [symbols_append hfirst, List.filter_append, List.filter_eq_self.mpr, List.filter_eq_nil_iff.mpr,
      List.append_nil]
    · intro s hs
      have := hbelow s hs
      simpa using this
    · intro s hs
      simpa using habove s hs
  · rw [symbols_append hfirst, List.filter_append, List.filter_eq_nil_iff.mpr, List.filter_eq_self.mpr,
      List.nil_append]
    · intro s hs
      simpa using hbelow s hs
    · intro s hs
      have := habove s hs
      simpa using this

/-- A text that ends in an open section goes on with an anchor. -/
theorem scan?_append_second_heading :
    let find := fun p => (Regex.engine p).toOption.getD fun _ => none
    let m : Matcher := ⟨["#", "b"].map find⟩
    m.matchSet "# b" ≠ [] ∧
      m.scan? ["x", "# a", "é"] = some [⟨"#", ⟨1, 0, 2, 1⟩⟩] ∧
      m.scan? ["# b", ""] = some [⟨"#", ⟨0, 0, 1, 0⟩⟩, ⟨"b", ⟨0, 0, 1, 0⟩⟩] ∧
      m.scan? ["x", "# a", "é", "# b", ""] =
        some [⟨"#", ⟨1, 0, 2, 1⟩⟩, ⟨"#", ⟨3, 0, 4, 0⟩⟩, ⟨"b", ⟨3, 0, 4, 0⟩⟩] := by
  intro find m
  have hmatch : m.matchSet "# b" = ["#", "b"] := by
    dsimp only [m, find]
    cbv
  have hbefore : m.scan? ["x", "# a", "é"] = some [⟨"#", ⟨1, 0, 2, 1⟩⟩] := by
    dsimp only [m, find]
    cbv
  have hafter : m.scan? ["# b", ""] = some [⟨"#", ⟨0, 0, 1, 0⟩⟩, ⟨"b", ⟨0, 0, 1, 0⟩⟩] := by
    dsimp only [m, find]
    cbv
  have hline : m.matchSet "# b" ≠ [] := by simp [hmatch]
  obtain ⟨above, below, joined, habove, hbelow, hjoined, hsplit, -, -⟩ :=
    m.scan?_append ["x", "# a", "é"] [""] "# b" hline
  rw [hbefore] at habove
  rw [hafter] at hbelow
  cases habove
  cases hbelow
  exact ⟨hline, hbefore, hafter, hjoined.trans (congrArg some hsplit)⟩

end Matcher

end AnchorOutline
