import AnchorOutline.Proofs.Json.Exact
import AnchorOutline.Proofs.Json.Records
import AnchorOutline.Sets.Config

/-!
# Config files read back

A config is read from the text that is written for it, with all its sets, its filter and the members
that are not known. This holds of every config that was itself read from some text, however that text
put it, unless a double is among the members that are not known.

* `SavedPattern.reads_toJson`, `PatternSet.reads_toJson` : patterns and sets are read back;
* `Config.Plain`, `Config.parse_text` : a config whose unknown members are plain is read back;
* `Config.plain_of_parse` : a config that was read is one of these;
* `Config.sets_of_parse_text` : the sets are read back in any case, if anything is;
* `Config.parse_text_of_parse` : a config that was read is read back.
-/

namespace AnchorOutline

open Json (Reads ReadsMembers RecordField Stops layout)

/-! ## Patterns and sets -/

theorem SavedPattern.reads_toJson {depth : Nat} (h : 0 < depth) (indent : Nat) (p : SavedPattern) :
    Reads (SavedPattern.decoder (depth + 1)) (layout indent p.toJson) p := by
  have hmembers : ReadsMembers
      (RecordField.readMember SavedPattern.fields RecordField.ignore depth) (indent + 1) {}
      [("ignoreCase", .bool p.ignoreCase), ("isRegex", .bool p.isRegex),
        ("pattern", .string p.pattern)]
      ⟨some p.ignoreCase, some p.isRegex, some p.pattern⟩ := by
    refine .cons (fun rest hrest => RecordField.readMember_stored rfl rfl
      (Json.Decoder.reads_bool depth (indent + 1) p.ignoreCase) hrest) ?_
    refine .cons (fun rest hrest => RecordField.readMember_stored rfl rfl
      (Json.Decoder.reads_bool depth (indent + 1) p.isRegex) hrest) ?_
    refine .cons (fun rest hrest => RecordField.readMember_stored rfl rfl
      (Json.Decoder.reads_string depth (indent + 1) p.pattern) hrest) ?_
    exact .nil _
  refine Json.Decoder.reads_record h hmembers ?_
  simp [SavedPattern.fields, RecordField.stored]

theorem PatternSet.reads_toJson {depth : Nat} (h : 2 < depth) (indent : Nat) (s : PatternSet) :
    Reads (PatternSet.decoder (depth + 1)) (layout indent s.toJson) s := by
  obtain ⟨depth, rfl⟩ : ∃ k, depth = k + 1 + 1 := ⟨depth - 2, by omega⟩
  have hpatterns : Reads (SavedPattern.decoder.list (depth + 1 + 1))
      (layout (indent + 1) (.array (s.patterns.map SavedPattern.toJson))) s.patterns :=
    Json.Decoder.reads_list (by omega)
      fun p _ => SavedPattern.reads_toJson (by omega) (indent + 2) p
  have hmembers : ReadsMembers
      (RecordField.readMember PatternSet.fields RecordField.ignore (depth + 1 + 1)) (indent + 1) {}
      [("id", .string s.id), ("patterns", .array (s.patterns.map SavedPattern.toJson))]
      ⟨some s.id, some s.patterns⟩ := by
    refine .cons (fun rest hrest => RecordField.readMember_stored rfl rfl
      (Json.Decoder.reads_string _ (indent + 1) s.id) hrest) ?_
    refine .cons (fun rest hrest => RecordField.readMember_stored rfl rfl hpatterns hrest) ?_
    exact .nil _
  refine Json.Decoder.reads_record (by omega) hmembers ?_
  simp [PatternSet.fields, RecordField.stored]

namespace Config

/-! ## Plain configs -/

/-- No number among the members that are not known is a double. -/
def Exact (c : Config) : Prop := ∀ m ∈ c.extra, m.2.Exact

/-- The members that are not known are in increasing order of their keys, are none that are known, and
have plain values. -/
structure PlainExtra (extra : List (String × Json)) : Prop where
  ordered : extra.Pairwise (·.1 < ·.1)
  unknown : ∀ m ∈ extra, fields.find? (·.isCalled m.1) = none
  values : ∀ m ∈ extra, Json.Plain 127 m.2

/-- A config that is written so that it can be read back. -/
def Plain (c : Config) : Prop := PlainExtra c.extra

theorem plain_empty : Plain {} := ⟨List.Pairwise.nil, nofun, nofun⟩

theorem Plain.withSets {c : Config} (h : c.Plain) (sets : List PatternSet) :
    Plain { c with sets := sets } := h

/-! ## Reading what was written -/

theorem readsMembers_append {σ : Type} {member : String → σ → Json.Reader σ} {depth : Nat}
    {s s' s'' : σ} {ms ms' : List (String × Json)} (h : ReadsMembers member depth s ms s')
    (h' : ReadsMembers member depth s' ms' s'') : ReadsMembers member depth s (ms ++ ms') s'' := by
  induction h with
  | nil => exact h'
  | cons hfirst _ ih => exact .cons hfirst (ih h')

theorem reads_definitions (sets : List PatternSet) : ReadsMembers
    (RecordField.readMember fields (keep 127) 127) 1 {}
    [("definitions", .array (sets.map PatternSet.toJson))] { sets := some sets } := by
  have hsets : Reads (PatternSet.decoder.list 127)
      (layout 1 (.array (sets.map PatternSet.toJson))) sets :=
    Json.Decoder.reads_list (by decide) fun s _ => PatternSet.reads_toJson (by decide) 2 s
  exact .cons (fun _ hrest => RecordField.readMember_stored rfl rfl hsets hrest) (.nil _)

theorem reads_logFilter (sets : List PatternSet) (logFilter : Option String) : ReadsMembers
    (RecordField.readMember fields (keep 127) 127) 1 { sets := some sets }
    (logFilter.map fun f => ("log_filter", Json.string f)).toList
    { sets := some sets, logFilter := logFilter.map some } := by
  cases logFilter with
  | none => exact .nil _
  | some f =>
    exact .cons (fun _ hrest => RecordField.readMember_stored rfl rfl
      (Json.Decoder.reads_optional (Json.Decoder.reads_string 127 1 f)
        (by simp [layout, Json.layoutString])) hrest) (.nil _)

theorem reads_extra {d : Draft} {ms : List (String × Json)} (h : PlainExtra (d.extra ++ ms)) :
    ReadsMembers (RecordField.readMember fields (keep 127) 127) 1 d ms
      { d with extra := d.extra ++ ms } := by
  induction ms generalizing d with
  | nil => simpa using ReadsMembers.nil d
  | cons m ms ih =>
    have hmem : m ∈ d.extra ++ m :: ms := by simp
    have hkeys : ∀ m' ∈ d.extra, m'.1 < m.1 := fun m' hm' =>
      (List.pairwise_append.mp h.ordered).2.2 m' hm' m List.mem_cons_self
    have hrest := ih (d := { d with extra := d.extra ++ [m] }) (by simpa using h)
    simp only [List.append_assoc, List.singleton_append] at hrest
    refine .cons (fun rest hrest => ?_) hrest
    have hread := (Json.reads_value (h.values m hmem) 1).read_eq [' '] rest Json.blank_space hrest
    rw [RecordField.readMember_other (h.unknown m hmem), keep]
    show (do
      let read ← Json.readValue 127 ([' '] ++ (layout 1 m.2 ++ rest))
      return ({ d with extra := Json.insertMember m.1 read.1 d.extra }, read.2) :
      Except Json.Failure (Draft × List Char)) = _
    rw [hread, ← Json.insertMember_of_lt hkeys]
    rfl

theorem reads_toJson {c : Config} (h : c.Plain) :
    Reads (decoder Json.depthLimit) (layout 0 c.toJson) c := by
  have hextra := @reads_extra { sets := some c.sets, logFilter := c.logFilter.map some } c.extra h
  have hmembers := readsMembers_append (reads_definitions c.sets)
    (readsMembers_append (reads_logFilter c.sets c.logFilter) hextra)
  have hread : Reads (decoder Json.depthLimit) (layout 0 c.toJson)
      (ofDraft ⟨some c.sets, c.logFilter.map some, [] ++ c.extra⟩) :=
    Json.Decoder.reads_openRecord (by decide) hmembers (by simp [fields, RecordField.stored])
  have hfinish : ofDraft ⟨some c.sets, c.logFilter.map some, [] ++ c.extra⟩ = c := by
    obtain ⟨sets, logFilter, extra⟩ := c
    cases logFilter <;> rfl
  rwa [hfinish] at hread

/-! ## Whole texts -/

theorem trim_ne_empty {text : String} {c : Char} (h : c ∈ text.toList)
    (hblank : Text.isBlank c = false) : (Text.trim text).isEmpty = false := by
  have hfront : c ∈ text.toList.dropWhile Text.isBlank := by
    have hsplit := h
    rw [← List.takeWhile_append_dropWhile (p := Text.isBlank) (l := text.toList),
      List.mem_append] at hsplit
    rcases hsplit with hmem | hmem
    · rw [List.all_eq_true.mp List.all_takeWhile c hmem] at hblank
      cases hblank
    · exact hmem
  have htrim : Text.trimChars text.toList ≠ [] := by
    intro hempty
    rw [Text.trimChars, List.reverse_eq_nil_iff, List.dropWhile_eq_nil_iff] at hempty
    rw [hempty c (List.mem_reverse.mpr hfront)] at hblank
    cases hblank
  cases hchars : Text.trimChars text.toList with
  | nil => exact absurd hchars htrim
  | cons x xs => simp [Text.trim, hchars]

theorem parse_of_brace {text : String} (h : '{' ∈ text.toList) :
    parse text = Json.decode decoder text := by
  rw [parse, trim_ne_empty h (by cbv)]
  rfl

theorem toList_text (c : Config) : c.text.toList = layout 0 c.toJson ++ ['\n'] := by
  simp [text, Json.pretty]

theorem brace_mem_text (c : Config) : '{' ∈ c.text.toList := by
  rw [toList_text, toJson, Json.layout_object]
  simp

theorem parse_text {c : Config} (h : c.Plain) : parse c.text = .ok c := by
  have hread := (reads_toJson h).read_eq [] ['\n'] Json.blank_nil (by simp [Stops])
  rw [parse_of_brace c.brace_mem_text]
  rw [Json.decode, toList_text, ← List.nil_append (layout 0 c.toJson ++ ['\n']), hread]
  rfl

/-! ## What is read -/

/-- What is known of a draft while a config is read. -/
structure PlainDraft (d : Draft) : Prop where
  members : Json.PlainMembers 127 d.extra
  unknown : ∀ m ∈ d.extra, fields.find? (·.isCalled m.1) = none

/-- A field is read without regard to the members that are not known. -/
theorem extra_of_field {f : RecordField Draft} (hf : f ∈ fields) {depth : Nat} {d d' : Draft}
    {cs rest : List Char} (h : f.read depth d cs = .ok (d', rest)) : d'.extra = d.extra := by
  simp only [fields, List.mem_cons, List.not_mem_nil, or_false] at hf
  rcases hf with rfl | rfl
  · obtain ⟨⟨x, cs₁⟩, -, h⟩ := of_bind_eq_ok h
    cases h
    rfl
  · obtain ⟨⟨x, cs₁⟩, -, h⟩ := of_bind_eq_ok h
    cases h
    rfl

theorem PlainDraft.readMember {d d' : Draft} {key : String} {cs rest : List Char}
    (hd : PlainDraft d)
    (h : RecordField.readMember fields (keep 127) 127 key d cs = .ok (d', rest)) :
    PlainDraft d' := by
  unfold RecordField.readMember at h
  split at h
  next hfind =>
    obtain ⟨cs₁, -, h⟩ := of_bind_eq_ok h
    obtain ⟨⟨v, cs₂⟩, hv, h⟩ := of_bind_eq_ok h
    cases h
    refine ⟨hd.members.insert key fun hexact => Json.plain_of_readValue hv hexact, fun m hm => ?_⟩
    rcases Json.mem_insertMember hm with rfl | hm
    · exact hfind
    · exact hd.unknown m hm
  next f hfind =>
    split at h
    next => cases h
    next =>
      obtain ⟨cs₁, -, h⟩ := of_bind_eq_ok h
      have hextra := extra_of_field (List.mem_of_find?_eq_some hfind) h
      exact ⟨hextra ▸ hd.members, hextra ▸ hd.unknown⟩

/-- A config that was read is what the members of its object were collected to. -/
theorem exists_draft_of_decoder {cs rest : List Char} {c : Config}
    (h : decoder Json.depthLimit cs = .ok (c, rest)) : ∃ inside d close,
      Json.skipSpace cs = '{' :: inside ∧ c = ofDraft d ∧
      Json.readMembers (RecordField.readMember fields (keep 127) 127) (inside.length + 1) true {} inside =
        .ok (d, close) := by
  obtain ⟨-, inside, d, hopen, hobject, rfl⟩ := Json.Decoder.openRecord_eq_ok.mp h
  obtain ⟨-, close, hmembers, -⟩ := RecordField.readObject_eq_ok.mp hobject
  exact ⟨inside, d, close, hopen, rfl, hmembers⟩

theorem plainDraft_of_decoder {cs rest : List Char} {c : Config}
    (h : decoder Json.depthLimit cs = .ok (c, rest)) : ∃ d, c = ofDraft d ∧ PlainDraft d := by
  obtain ⟨_, d, _, -, rfl, hmembers⟩ := exists_draft_of_decoder h
  exact ⟨d, rfl, Json.preserves_readMembers (fun _ _ _ _ _ hd h => hd.readMember h) hmembers
    ⟨⟨List.Pairwise.nil, nofun⟩, nofun⟩⟩

theorem empty_or_decode_of_parse {text : String} {c : Config} (h : parse text = .ok c) :
    c = {} ∨ ∃ rest, decoder Json.depthLimit text.toList = .ok (c, rest) := by
  unfold parse at h
  split at h
  next =>
    cases h
    exact .inl rfl
  next =>
    obtain ⟨rest, hread⟩ := Json.eq_ok_of_decode h
    exact .inr ⟨rest, hread⟩

/-- A config that was read is plain if no number among its unknown members is a double. -/
theorem plain_of_parse {text : String} {c : Config} (h : parse text = .ok c) (hexact : c.Exact) :
    c.Plain := by
  rcases empty_or_decode_of_parse h with rfl | ⟨rest, hdecode⟩
  · exact plain_empty
  · obtain ⟨d, rfl, hd⟩ := plainDraft_of_decoder hdecode
    exact ⟨hd.members.1, hd.unknown, fun m hm => hd.members.2 m hm (hexact m hm)⟩

/-! ## The sets alone -/

theorem Draft.sets_of_readMember {key : String} {d d' : Draft} {cs rest : List Char}
    {sets : List PatternSet} (hd : d.sets = some sets)
    (h : Json.RecordField.readMember fields (keep 127) 127 key d cs = .ok (d', rest)) :
    d'.sets = some sets := by
  unfold Json.RecordField.readMember at h
  split at h
  next =>
    obtain ⟨cs₁, -, h⟩ := of_bind_eq_ok h
    obtain ⟨⟨v, cs₂⟩, -, h⟩ := of_bind_eq_ok h
    cases h
    exact hd
  next f hfind =>
    split at h
    next => cases h
    next hfresh =>
      obtain ⟨cs₁, -, h⟩ := of_bind_eq_ok h
      have hf := List.mem_of_find?_eq_some hfind
      simp only [fields, List.mem_cons, List.not_mem_nil, or_false] at hf
      rcases hf with rfl | rfl
      · exact absurd (by simp [Json.RecordField.stored, hd]) hfresh
      · obtain ⟨⟨x, cs₂⟩, -, h⟩ := of_bind_eq_ok h
        cases h
        exact hd

/-- Whatever else is written for a config, only its sets can be read from that. -/
theorem sets_of_parse_text {c c' : Config} (h : parse c.text = .ok c') : c'.sets = c.sets := by
  rw [parse_of_brace c.brace_mem_text] at h
  obtain ⟨rest, h⟩ := Json.eq_ok_of_decode h
  rw [toList_text, toJson, Json.layout_object, List.cons_append] at h
  obtain ⟨inside, d, close, hopen, rfl, hmembers⟩ := exists_draft_of_decoder h
  rw [Json.skipSpace_cons rfl] at hopen
  obtain rfl := (List.cons.inj hopen).2
  have hsets : d.sets = some c.sets := by
    cases reads_definitions c.sets with
    | cons hfirst hrest =>
      cases hrest
      obtain ⟨cs, hread⟩ := Json.readMembers_first hfirst _ ['\n']
      exact Json.preserves_readMembers (fun _ _ _ _ _ => Draft.sets_of_readMember)
        (hread.symm.trans hmembers) rfl
  simp [ofDraft, hsets]

/-! ## Both ways -/

/-- Whatever text a config was read from, it is read again from the text that is written for it, and
what is written for it then is the same, unless a double is among its unknown members. -/
theorem parse_text_of_parse {text : String} {c : Config} (hparse : parse text = .ok c)
    (hexact : c.Exact) :
    parse c.text = .ok c ∧ ∀ c', parse c.text = .ok c' → c' = c ∧ c'.text = c.text := by
  have hread := parse_text (plain_of_parse hparse hexact)
  refine ⟨hread, fun c' hc' => ?_⟩
  obtain rfl : c = c' := Except.ok.inj (hread.symm.trans hc')
  exact ⟨rfl, rfl⟩

/-- The text of mixed forms below is read as this config. Only the match is left to the kernel. -/
theorem eq_mixed_of_match {result : Except Json.Error Config} (h : (match result with
    | .ok ⟨sets, none, [(k₁, .string x),
        (k₂, .object [(k₃, .null), (k₄, .array [.integer m, .integer n])])]⟩ =>
      decide (sets = [⟨"old", [⟨true, true, "^="⟩]⟩, ⟨"", [⟨false, false, "é\n"⟩]⟩] ∧
        [k₁, x, k₂, k₃, k₄] = ["alpha", "last", "zeta", "a", "b"] ∧ m = 1 ∧ n = -2)
    | _ => false) = true) :
    result = .ok {
      sets := [⟨"old", [⟨true, true, "^="⟩]⟩, ⟨"", [⟨false, false, "é\n"⟩]⟩]
      extra := [("alpha", .string "last"),
        ("zeta", .object [("a", .null), ("b", .array [.integer 1, .integer (-2)])])] } := by
  split at h
  next =>
    obtain ⟨rfl, hkeys, rfl, rfl⟩ := of_decide_eq_true h
    cases hkeys
    rfl
  next => cases h

/-- A config with former names of fields, with records written as arrays, and with unknown members out
of order, one of them twice. -/
theorem parse_text_of_mixed_forms :
    let text := "\x7b\"zeta\": \x7b\"b\": [1, -2], \"a\": null\x7d, \"definitions\": [[\"old\",[[true,true,\"^=\"]]], \x7b\"symbols\": [\x7b\"symbol\": \"\\u00e9\\n\", \"regular_expression\": false\x7d], \"id\": \"\"\x7d], \"alpha\": 1, \"alpha\": \"last\"\x7d"
    let c : Config := {
      sets := [⟨"old", [⟨true, true, "^="⟩]⟩, ⟨"", [⟨false, false, "é\n"⟩]⟩]
      extra := [("alpha", .string "last"),
        ("zeta", .object [("a", .null), ("b", .array [.integer 1, .integer (-2)])])] }
    parse text = .ok c ∧ c.Exact ∧ parse c.text = .ok c := by
  intro text c
  have hparse : parse text = .ok c :=
    (parse_of_brace (by decide +kernel)).trans (eq_mixed_of_match (by decide +kernel))
  have hexact : c.Exact := by
    have hitems : (Json.array [.integer 1, .integer (-2)]).Exact :=
      .array (by simp [Json.Exact.integer])
    have hobject : (Json.object [("a", .null), ("b", .array [.integer 1, .integer (-2)])]).Exact :=
      .object (by simp [Json.Exact.null, hitems])
    simp [c, Exact, Json.Exact.string, hobject]
  exact ⟨hparse, hexact, (parse_text_of_parse hparse hexact).1⟩

end Config

end AnchorOutline
