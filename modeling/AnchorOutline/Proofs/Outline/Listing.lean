import AnchorOutline.Outline.Report
import AnchorOutline.Proofs.Json.Records
import AnchorOutline.Proofs.Outline.LineBreaks
import AnchorOutline.Proofs.Outline.Ranges

/-!
# What a listing tells

A listing tells all that is known of the symbols of a document. As JSON it is read back. The lines are
told apart although a name may look like any of their parts, and even like another line: the numbers
before it are told by what stands behind each, and no name has a line feed in it.

* `LineRange.Counted`, `Matcher.counted_of_mem_symbols` : the numbers of a range fit into 64 bits;
* `SymbolInformation.reads_toJson` : a symbol is read back;
* `SymbolInformation.line_inj`, `plainListing_inj` : lines and listings are told apart;
* `FindsParts` : what is found in a line is a part of it;
* `renderOutline_loses_nothing` : both kinds of listing.
-/

namespace AnchorOutline

open Json (Reads ReadsMembers RecordField layout)

/-! ## Counted ranges -/

/-- Numbers that a reader of JSON takes, and the numbers of lines that are shown for them. -/
structure LineRange.Counted (r : LineRange) : Prop where
  startLine : r.startLine + 1 ≤ Json.largestInteger
  startCol : r.startCol ≤ Json.largestInteger
  endLine : r.endLine + 1 ≤ Json.largestInteger
  endCol : r.endCol ≤ Json.largestInteger

/-- The symbols of a text that a memory of 64 bits may hold have no larger numbers. -/
theorem Matcher.counted_of_mem_symbols {m : Matcher} {text : String} {s : Symbol}
    (hsize : text.length < 2 ^ 63) (hs : s ∈ m.symbols (Text.lines text)) : s.range.Counted := by
  obtain ⟨hanchor, hrange⟩ := mem_symbols hs
  generalize s.range.startLine = a at hanchor hrange
  have hlines : (Text.lines text).length ≤ text.length + 1 := Text.length_lines_le text
  have hle := le_lastLine hanchor
  have hlt := lastLine_lt_length hanchor
  have hwidth : ((Text.lines text).getD (m.lastLine (Text.lines text) a) "").length ≤ text.length := by
    rw [List.getD_eq_getElem _ _ hlt]
    exact (Text.of_mem_lines (List.getElem_mem hlt)).1
  have hlargest : Json.largestInteger = 2 ^ 64 - 1 := rfl
  rw [hrange, rangeAt]
  constructor <;> dsimp only <;> omega

/-! ## Records -/

theorem LineRange.reads_toJson {r : LineRange} (hr : r.Counted) {depth : Nat} (h : 0 < depth)
    (indent : Nat) : Reads (LineRange.decoder (depth + 1)) (layout indent r.toJson) r := by
  have hmembers : ReadsMembers (RecordField.readMember LineRange.fields RecordField.ignore depth)
      (indent + 1) {}
      [("start_line", .integer r.startLine), ("start_col", .integer r.startCol),
        ("end_line", .integer r.endLine), ("end_col", .integer r.endCol)]
      ⟨some r.startLine, some r.startCol, some r.endLine, some r.endCol⟩ := by
    refine .cons (fun rest hrest => RecordField.readMember_stored rfl rfl
      (Json.Decoder.reads_count (Nat.le_of_succ_le hr.startLine) depth (indent + 1)) hrest) ?_
    refine .cons (fun rest hrest => RecordField.readMember_stored rfl rfl
      (Json.Decoder.reads_count hr.startCol depth (indent + 1)) hrest) ?_
    refine .cons (fun rest hrest => RecordField.readMember_stored rfl rfl
      (Json.Decoder.reads_count (Nat.le_of_succ_le hr.endLine) depth (indent + 1)) hrest) ?_
    refine .cons (fun rest hrest => RecordField.readMember_stored rfl rfl
      (Json.Decoder.reads_count hr.endCol depth (indent + 1)) hrest) ?_
    exact .nil _
  refine Json.Decoder.reads_record h hmembers ?_
  simp [LineRange.fields, RecordField.stored]

namespace SymbolInformation

theorem reads_location {uri : String} {r : LineRange} (hr : r.Counted) {depth : Nat} (h : 1 < depth)
    (indent : Nat) :
    Reads (locationDecoder (depth + 1))
      (layout indent (.object [("uri", .string uri), ("range", r.toJson)])) (uri, r) := by
  obtain ⟨depth, rfl⟩ : ∃ k, depth = k + 1 := ⟨depth - 1, by omega⟩
  have hmembers : ReadsMembers (RecordField.readMember locationFields RecordField.ignore (depth + 1))
      (indent + 1) {} [("uri", .string uri), ("range", r.toJson)] ⟨some uri, some r⟩ := by
    refine .cons (fun rest hrest => RecordField.readMember_stored rfl rfl
      (Json.Decoder.reads_string _ (indent + 1) uri) hrest) ?_
    refine .cons (fun rest hrest => RecordField.readMember_stored rfl rfl
      (LineRange.reads_toJson hr (by omega) (indent + 1)) hrest) ?_
    exact .nil _
  refine Json.Decoder.reads_record (by omega) hmembers ?_
  simp [locationFields, RecordField.stored]

theorem reads_toJson {s : SymbolInformation} (hs : s.range.Counted) {depth : Nat} (h : 2 < depth)
    (indent : Nat) : Reads (SymbolInformation.decoder (depth + 1)) (layout indent s.toJson) s := by
  obtain ⟨depth, rfl⟩ : ∃ k, depth = k + 1 := ⟨depth - 1, by omega⟩
  have hlocation : Reads (locationDecoder (depth + 1))
      (layout (indent + 1) (.object [("uri", .string s.uri), ("range", s.range.toJson)]))
      (s.uri, s.range) := reads_location hs (by omega) (indent + 1)
  have hmembers : ReadsMembers (RecordField.readMember fields RecordField.ignore (depth + 1))
      (indent + 1) {}
      [("name", .string s.name), ("kind", .string "string"), ("container_name", .string s.containerName),
        ("location", .object [("uri", .string s.uri), ("range", s.range.toJson)])]
      ⟨some s.name, some (), some s.containerName, some (s.uri, s.range)⟩ := by
    refine .cons (fun rest hrest => RecordField.readMember_stored rfl rfl
      (Json.Decoder.reads_string _ (indent + 1) s.name) hrest) ?_
    refine .cons (fun rest hrest => RecordField.readMember_stored rfl rfl
      (Json.Decoder.reads_tag "string" _ (indent + 1)) hrest) ?_
    refine .cons (fun rest hrest => RecordField.readMember_stored rfl rfl
      (Json.Decoder.reads_string _ (indent + 1) s.containerName) hrest) ?_
    refine .cons (fun rest hrest => RecordField.readMember_stored rfl rfl hlocation hrest) ?_
    exact .nil _
  refine Json.Decoder.reads_record (by omega) hmembers ?_
  simp [fields, RecordField.stored]

end SymbolInformation

theorem decode_jsonListing {symbols : List SymbolInformation} (h : ∀ s ∈ symbols, s.range.Counted) :
    Json.decode (.list SymbolInformation.decoder) (jsonListing symbols) = .ok symbols :=
  Json.decode_pretty (Json.Decoder.reads_list (by decide) fun s hs =>
    SymbolInformation.reads_toJson (h s hs) (by decide) 1)

/-! ## Lines -/

theorem SymbolInformation.line_ne_empty (s : SymbolInformation) : s.line ≠ "" := by
  intro h
  have hlength := congrArg String.length h
  simp [SymbolInformation.line] at hlength

/-- Lines with a line feed behind each are the listing with one line feed behind it. -/
theorem join_lines (s : SymbolInformation) (rest : List SymbolInformation) :
    String.join (((s :: rest).map SymbolInformation.line).map (· ++ "\n")) =
      plainListing (s :: rest) ++ "\n" := by
  induction rest generalizing s with
  | nil => simp [plainListing, String.join_cons]
  | cons s' rest ih =>
    rw [List.map_cons, List.map_cons, String.join_cons, ih]
    simp [plainListing, String.intercalate_cons_cons, String.append_assoc]

theorem plainListing_eq_empty {symbols : List SymbolInformation} :
    plainListing symbols = "" ↔ symbols = [] := by
  refine ⟨fun h => ?_, fun h => by rw [h]; rfl⟩
  cases symbols with
  | nil => rfl
  | cons s rest =>
    have hline : s.line = "" := by
      cases rest with
      | nil => simpa [plainListing] using h
      | cons s' rest =>
        rw [plainListing, List.map_cons, List.map_cons, String.intercalate_cons_cons] at h
        simp [String.append_eq_empty_iff] at h
    exact absurd hline s.line_ne_empty

theorem renderOutline_plain (engine : Regex.Engine) (patterns : List String) (d : Document) :
    renderOutline engine patterns d false =
      ((Provider.mk patterns).symbols engine d).map plainListing := by
  unfold renderOutline
  cases (Provider.mk patterns).symbols engine d <;> rfl

theorem not_mem_toString {c : Char} (hc : c.isDigit = false) (n : Nat) : c ∉ (toString n).toList := by
  intro h
  rw [Text.isDigit_of_mem_toString h] at hc
  cases hc

theorem toString_toList_inj {m n : Nat} (h : (toString m).toList = (toString n).toList) : m = n := by
  rw [String.toList_inj, Nat.toString_eq_repr, Nat.toString_eq_repr] at h
  exact Nat.repr_inj.mp h

theorem SymbolInformation.toList_line (s : SymbolInformation) :
    s.line.toList = (toString (s.range.startLine + 1)).toList ++ ':' ::
      ((toString s.range.startCol).toList ++ '-' :: ((toString (s.range.endLine + 1)).toList ++ ':' ::
        ((toString s.range.endCol).toList ++ ' ' :: ' ' :: s.name.toList))) := by
  have hcolon : (toString ":").toList = [':'] := rfl
  have hdash : (toString "-").toList = ['-'] := rfl
  have hgap : (toString "  ").toList = [' ', ' '] := rfl
  have hname : toString s.name = s.name := rfl
  simp only [line, String.toList_append, hcolon, hdash, hgap, hname, List.append_assoc, List.cons_append,
    List.nil_append]

/-- A line tells the range and the name, whatever the name looks like. -/
theorem SymbolInformation.line_inj {s s' : SymbolInformation} (h : s.line = s'.line) :
    s.range = s'.range ∧ s.name = s'.name := by
  have hline := congrArg String.toList h
  rw [toList_line, toList_line] at hline
  obtain ⟨hstartLine, hline⟩ :=
    Text.append_cons_inj (not_mem_toString rfl _) (not_mem_toString rfl _) hline
  obtain ⟨hstartCol, hline⟩ :=
    Text.append_cons_inj (not_mem_toString rfl _) (not_mem_toString rfl _) hline
  obtain ⟨hendLine, hline⟩ :=
    Text.append_cons_inj (not_mem_toString rfl _) (not_mem_toString rfl _) hline
  obtain ⟨hendCol, hname⟩ :=
    Text.append_cons_inj (not_mem_toString rfl _) (not_mem_toString rfl _) hline
  have hrange : ∀ r r' : LineRange, r.startLine + 1 = r'.startLine + 1 → r.startCol = r'.startCol →
      r.endLine + 1 = r'.endLine + 1 → r.endCol = r'.endCol → r = r' := by
    rintro ⟨a, b, c, d⟩ ⟨a', b', c', d'⟩ ha rfl hc rfl
    obtain rfl := Nat.succ.inj ha
    obtain rfl := Nat.succ.inj hc
    rfl
  exact ⟨hrange _ _ (toString_toList_inj hstartLine) (toString_toList_inj hstartCol)
    (toString_toList_inj hendLine) (toString_toList_inj hendCol),
    String.toList_inj.mp (List.cons.inj hname).2⟩

/-- Symbols as a provider gives them for a document at an address: a name is a part of one line. -/
structure SymbolInformation.FoundAt (uri : String) (s : SymbolInformation) : Prop where
  uri_eq : s.uri = uri
  container_eq : s.containerName = s.name
  no_feed : '\n' ∉ s.name.toList

namespace SymbolInformation.FoundAt

variable {uri : String} {s s' : SymbolInformation}

theorem line_inj (hs : s.FoundAt uri) (hs' : s'.FoundAt uri) (h : s.line = s'.line) : s = s' := by
  obtain ⟨hrange, hname⟩ := SymbolInformation.line_inj h
  have hcontainer : s.containerName = s'.containerName := by
    rw [hs.container_eq, hs'.container_eq, hname]
  have huri : s.uri = s'.uri := by rw [hs.uri_eq, hs'.uri_eq]
  cases s
  cases s'
  simp_all

theorem feed_not_mem_line (hs : s.FoundAt uri) : '\n' ∉ s.line.toList := by
  have hdigits : ∀ n : Nat, '\n' ∉ (toString n).toList := not_mem_toString rfl
  rw [toList_line]
  simp only [List.mem_append, List.mem_cons, not_or]
  exact ⟨hdigits _, by decide, hdigits _, by decide, hdigits _, by decide, hdigits _, by decide,
    by decide, hs.no_feed⟩

end SymbolInformation.FoundAt

theorem map_line_inj {uri : String} {symbols symbols' : List SymbolInformation}
    (h : ∀ s ∈ symbols, s.FoundAt uri) (h' : ∀ s ∈ symbols', s.FoundAt uri)
    (heq : symbols.map SymbolInformation.line = symbols'.map SymbolInformation.line) :
    symbols = symbols' := by
  induction symbols generalizing symbols' with
  | nil => exact (List.map_eq_nil_iff.mp heq.symm).symm
  | cons s rest ih =>
    cases symbols' with
    | nil => cases heq
    | cons s' rest' =>
      obtain ⟨hline, hrest⟩ := List.cons.inj heq
      rw [(h s List.mem_cons_self).line_inj (h' s' List.mem_cons_self) hline,
        ih (fun t ht => h t (List.mem_cons_of_mem s ht)) (fun t ht => h' t (List.mem_cons_of_mem s' ht))
          hrest]

/-- The lines of a listing are found again. -/
theorem split_plainListing {uri : String} {symbols : List SymbolInformation} (hne : symbols ≠ [])
    (h : ∀ s ∈ symbols, s.FoundAt uri) :
    Text.split '\n' (plainListing symbols).toList =
      (symbols.map SymbolInformation.line).map String.toList := by
  rw [plainListing, String.toList_intercalate]
  refine Text.split_join (by simpa using hne) fun piece hpiece => ?_
  rw [List.map_map] at hpiece
  obtain ⟨s, hs, rfl⟩ := List.mem_map.mp hpiece
  exact (h s hs).feed_not_mem_line

/-- A listing tells all of the symbols that are found at one address. -/
theorem plainListing_inj {uri : String} {symbols symbols' : List SymbolInformation}
    (h : ∀ s ∈ symbols, s.FoundAt uri) (h' : ∀ s ∈ symbols', s.FoundAt uri)
    (heq : plainListing symbols = plainListing symbols') : symbols = symbols' := by
  by_cases hempty : symbols = []
  · have hnone : plainListing symbols' = "" := by rw [← heq, plainListing_eq_empty.mpr hempty]
    rw [hempty, plainListing_eq_empty.mp hnone]
  have hempty' : symbols' ≠ [] := by
    rintro rfl
    exact hempty (plainListing_eq_empty.mp heq)
  have hlines := split_plainListing hempty h
  rw [heq, split_plainListing hempty' h'] at hlines
  exact map_line_inj h h' (List.map_injective_iff.mpr (fun _ _ => String.toList_inj.mp) hlines).symm

/-! ## Symbols of a document -/

/-- What is found in a line is a part of it. -/
def FindsParts (engine : Regex.Engine) : Prop :=
  ∀ pattern find, engine pattern = .ok find → ∀ line name, find line = some name →
    name.toList <:+: line.toList

theorem Regex.findsParts_engine : FindsParts Regex.engine := by
  intro pattern find hfind line name hname
  obtain ⟨program, -, rfl⟩ := of_map_eq_ok hfind
  obtain ⟨⟨start, stop⟩, -, rfl⟩ := Option.map_eq_some_iff.mp hname
  rw [String.toList_ofList]
  exact (List.take_prefix _ _).isInfix.trans (List.drop_suffix _ _).isInfix

theorem exists_of_mem_mapM {ε α β : Type} {f : α → Except ε β} {xs : List α} {ys : List β}
    (h : xs.mapM f = .ok ys) {y : β} (hy : y ∈ ys) : ∃ x ∈ xs, f x = .ok y := by
  induction xs generalizing ys with
  | nil =>
    cases h
    exact absurd hy List.not_mem_nil
  | cons x xs ih =>
    rw [List.mapM_cons] at h
    obtain ⟨first, hfirst, h⟩ := of_bind_eq_ok h
    obtain ⟨rest, hrest, h⟩ := of_bind_eq_ok h
    cases h
    rcases List.mem_cons.mp hy with rfl | hy
    · exact ⟨x, List.mem_cons_self, hfirst⟩
    · obtain ⟨x', hx', hfx⟩ := ih hrest hy
      exact ⟨x', List.mem_cons_of_mem x hx', hfx⟩

theorem Matcher.exists_of_mem_finders {engine : Regex.Engine} {patterns : List String} {m : Matcher}
    (hm : Matcher.ofPatterns engine patterns = .ok m) {find : String → Option String}
    (hfind : find ∈ m.finders) : ∃ pattern, engine pattern = .ok find := by
  obtain ⟨finders, hfinders, hm⟩ := of_bind_eq_ok hm
  cases hm
  obtain ⟨pattern, -, hpattern⟩ := exists_of_mem_mapM hfinders hfind
  exact ⟨pattern, Json.mapError_eq_ok.mp hpattern⟩

theorem Matcher.exists_find_of_mem_symbols {m : Matcher} {lines : List String} {s : Symbol}
    (hs : s ∈ m.symbols lines) :
    ∃ find ∈ m.finders, ∃ line ∈ lines, find line = some s.name := by
  rw [symbols_eq] at hs
  obtain ⟨a, ha, hs⟩ := List.mem_flatMap.mp hs
  have hlt : a < lines.length := (mem_anchorLines.mp ha).1
  obtain ⟨find, hfind, hs⟩ := List.mem_filterMap.mp hs
  obtain ⟨name, hname, rfl⟩ := Option.map_eq_some_iff.mp hs
  rw [List.getD_eq_getElem _ _ hlt] at hname
  exact ⟨find, hfind, _, List.getElem_mem hlt, hname⟩

namespace Provider

variable {engine : Regex.Engine} {p : Provider} {d : Document} {symbols : List SymbolInformation}

theorem exists_matcher (h : p.symbols engine d = .ok symbols) :
    ∃ m, Matcher.ofPatterns engine p.patterns = .ok m ∧
      symbols = (m.symbols d.lines).map fun s => ⟨s.name, s.name, d.uri, s.range⟩ := by
  obtain ⟨found, hfound, h⟩ := of_bind_eq_ok h
  obtain ⟨m, hm, hfound⟩ := of_bind_eq_ok hfound
  cases hfound
  cases h
  exact ⟨m, hm, rfl⟩

theorem foundAt_of_symbols (hengine : FindsParts engine) (h : p.symbols engine d = .ok symbols) :
    ∀ s ∈ symbols, s.FoundAt d.uri := by
  obtain ⟨m, hm, rfl⟩ := exists_matcher h
  intro s hs
  obtain ⟨found, hfound, rfl⟩ := List.mem_map.mp hs
  obtain ⟨find, hfind, line, hline, hname⟩ := Matcher.exists_find_of_mem_symbols hfound
  obtain ⟨pattern, hpattern⟩ := Matcher.exists_of_mem_finders hm hfind
  have hpart := hengine pattern find hpattern line found.name hname
  exact ⟨rfl, rfl, fun hfeed => (Text.of_mem_lines hline).2 (hpart.subset hfeed)⟩

theorem counted_of_symbols (hsize : d.text.length < 2 ^ 63) (h : p.symbols engine d = .ok symbols) :
    ∀ s ∈ symbols, s.range.Counted := by
  obtain ⟨m, -, rfl⟩ := exists_matcher h
  intro s hs
  obtain ⟨found, hfound, rfl⟩ := List.mem_map.mp hs
  exact Matcher.counted_of_mem_symbols hsize hfound

end Provider

/-! ## Outlines -/

theorem renderOutline_json (engine : Regex.Engine) (patterns : List String) (d : Document) :
    renderOutline engine patterns d true =
      ((Provider.mk patterns).symbols engine d).map jsonListing := by
  unfold renderOutline
  cases (Provider.mk patterns).symbols engine d <;> rfl

/-- An outline loses nothing. As lines it is told apart from that of any other symbols that are found, by
any patterns in any text, at the same address, and it is empty only if there are none. As JSON it is read
back as the symbols of the document, and no number is too large for 64 bits, the first line being shown as
one, if the text is no longer than memory allows. -/
theorem renderOutline_loses_nothing {engine : Regex.Engine} (hengine : FindsParts engine)
    (patterns : List String) (d : Document) :
    (∀ patterns' d' text, d'.uri = d.uri → renderOutline engine patterns d false = .ok text →
        renderOutline engine patterns' d' false = .ok text →
          (Provider.mk patterns').symbols engine d' = (Provider.mk patterns).symbols engine d) ∧
      (renderOutline engine patterns d false = .ok "" ↔
        (Provider.mk patterns).symbols engine d = .ok []) ∧
      (d.text.length < 2 ^ 63 →
        (renderOutline engine patterns d true).map (Json.decode (.list SymbolInformation.decoder)) =
            ((Provider.mk patterns).symbols engine d).map .ok ∧
          ∀ symbols, (Provider.mk patterns).symbols engine d = .ok symbols →
            ∀ s ∈ symbols, s.range.Counted) := by
  refine ⟨fun patterns' d' text huri h h' => ?_, ?_,
    fun hsize => ⟨?_, fun symbols => Provider.counted_of_symbols hsize⟩⟩
  · rw [renderOutline_plain] at h h'
    obtain ⟨symbols, hsymbols, htext⟩ := of_map_eq_ok h
    obtain ⟨symbols', hsymbols', htext'⟩ := of_map_eq_ok h'
    have hfound := Provider.foundAt_of_symbols hengine hsymbols
    have hfound' := Provider.foundAt_of_symbols hengine hsymbols'
    rw [huri] at hfound'
    rw [hsymbols, hsymbols', plainListing_inj hfound' hfound (htext'.trans htext.symm)]
  · rw [renderOutline_plain]
    cases (Provider.mk patterns).symbols engine d with
    | error e => simp [Except.map]
    | ok symbols => simp [Except.map, plainListing_eq_empty]
  · rw [renderOutline_json]
    cases hsymbols : (Provider.mk patterns).symbols engine d with
    | error e => rfl
    | ok symbols =>
      exact congrArg Except.ok (decode_jsonListing (Provider.counted_of_symbols hsize hsymbols))

/-- The match of the first pattern looks like an entry of a listing, and that of the other one is empty. -/
theorem renderOutline_loses_nothing_of_entry :
    let d : Document := ⟨"untitled:1", "1:0-1:11  #\n"⟩
    let patterns := ["1:0.*", ""]
    let found : List SymbolInformation := [
      ⟨"1:0-1:11  #", "1:0-1:11  #", "untitled:1", ⟨0, 0, 0, 11⟩⟩,
      ⟨"", "", "untitled:1", ⟨0, 0, 0, 11⟩⟩, ⟨"", "", "untitled:1", ⟨1, 0, 1, 0⟩⟩]
    FindsParts Regex.engine ∧ d.text.length < 2 ^ 63 ∧
      (renderOutline Regex.engine patterns d true).map (Json.decode (.list SymbolInformation.decoder)) =
        .ok (.ok found) ∧
      ∀ patterns' d', d'.uri = "untitled:1" → renderOutline Regex.engine patterns' d' false =
        .ok "1:0-1:11  1:0-1:11  #\n1:0-1:11  \n2:0-2:0  " →
          (Provider.mk patterns').symbols Regex.engine d' = .ok found := by
  intro d patterns found
  have hsize : d.text.length < 2 ^ 63 := by decide
  have hfound : (Provider.mk patterns).symbols Regex.engine d = .ok found := by
    dsimp only [d, patterns, found]
    cbv
  have hlisting : renderOutline Regex.engine patterns d false =
      .ok "1:0-1:11  1:0-1:11  #\n1:0-1:11  \n2:0-2:0  " := by
    rw [renderOutline_plain, hfound]
    rfl
  obtain ⟨htold, -, hread⟩ := renderOutline_loses_nothing Regex.findsParts_engine patterns d
  have hjson := (hread hsize).1
  rw [hfound] at hjson htold
  exact ⟨Regex.findsParts_engine, hsize, hjson,
    fun patterns' d' huri h => htold patterns' d' _ huri hlisting h⟩

end AnchorOutline
