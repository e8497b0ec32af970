import AnchorOutline.Proofs.Json.Members
import AnchorOutline.Sets.Format

/-!
# Spellings of pattern sets

A set may be written by objects in many ways: each field under its name or a former one, members in any
order, flags and lists left out where they have their usual values, other members in between. However it is
written, it is read as that set. An object that leaves open what is meant is not read.

* `SavedPattern.SpelledBy`, `PatternSet.SpelledBy` : the ways to write a pattern or a set;
* `SavedPattern.Faulty`, `PatternSet.Faulty` : objects in which a field is doubled or missing;
* `PatternSet.decode_of_holds` : what is read from a text that holds a value.
-/

namespace AnchorOutline

open Json (Accepts ArrayText BoolText Decoder Gives Holds Member ObjectText RecordField StringText Takes
  ValueText blank_nil blank_space spells_plain)

/-! ## Patterns -/

namespace SavedPattern

/-- The members of an object that spell a pattern. -/
structure Members (p : SavedPattern) (ms : List Member) : Prop where
  ignoreCase : Json.HasField ["ignoreCase", "ignore_case"] (BoolText p.ignoreCase)
    (p.ignoreCase = false) ms
  isRegex : Json.HasField ["isRegex", "regular_expression"] (BoolText p.isRegex) (p.isRegex = true) ms
  pattern : Json.HasField ["pattern", "symbol"] (StringText p.pattern) False ms

/-- An object that spells a pattern. -/
def SpelledBy (p : SavedPattern) (text : List Char) : Prop := ∃ ms, ObjectText ms text ∧ p.Members ms

/-- An object with a doubled field, or without the field that a pattern needs. -/
def Faulty (text : List Char) : Prop :=
  Json.FaultyObject [["ignoreCase", "ignore_case"], ["isRegex", "regular_expression"],
    ["pattern", "symbol"]] [["pattern", "symbol"]] text

structure Draft.PartOf (d : Draft) (p : SavedPattern) : Prop where
  ignoreCase : ∀ x ∈ d.ignoreCase, x = p.ignoreCase
  isRegex : ∀ x ∈ d.isRegex, x = p.isRegex
  pattern : ∀ x ∈ d.pattern, x = p.pattern

theorem regular_fields : RecordField.Regular fields := by
  refine ⟨?_, fun f hf key => RecordField.find_isCalled (by decide +kernel) hf, ?_⟩
  · simp only [fields, List.forall_mem_cons]
    refine ⟨?_, ?_, ?_, nofun⟩
    · exact fun depth d text h => RecordField.takes_stored (Decoder.takes_bool h depth)
    · exact fun depth d text h => RecordField.takes_stored (Decoder.takes_bool h depth)
    · exact fun depth d text h => RecordField.takes_stored (Decoder.takes_stringNamed h _ depth)
  · intro f hf f' hf' depth d cs d' rest hread
    simp only [fields, List.mem_cons, List.not_mem_nil, or_false] at hf hf'
    rcases hf with rfl | rfl | rfl
    · obtain ⟨x, rfl⟩ := RecordField.of_read_stored hread
      rcases hf' with rfl | rfl | rfl <;> simp [RecordField.stored]
    · obtain ⟨x, rfl⟩ := RecordField.of_read_stored hread
      rcases hf' with rfl | rfl | rfl <;> simp [RecordField.stored]
    · obtain ⟨x, rfl⟩ := RecordField.of_read_stored hread
      rcases hf' with rfl | rfl | rfl <;> simp [RecordField.stored]

theorem not_given_empty : ∀ f ∈ fields, f.isGiven {} = false := by
  simp [fields, RecordField.stored]

theorem Members.count_le_one {p : SavedPattern} {ms : List Member} (h : p.Members ms) :
    ∀ f ∈ fields, ms.countP (f.isCalled ·.key) ≤ 1 := by
  simp only [RecordField.isCalled_eq_decide, fields, List.forall_mem_cons]
  exact ⟨h.ignoreCase.count_le_one, h.isRegex.count_le_one, h.pattern.count_le_one, nofun⟩

theorem Members.gives {p : SavedPattern} {ms : List Member} (h : p.Members ms) {m : Member} (hm : m ∈ ms)
    (depth : Nat) : ∀ f ∈ fields, f.isCalled m.key = true → ∀ d : Draft, d.PartOf p →
      ∃ d' : Draft, d'.PartOf p ∧ Gives (f.read depth d) m.value d' := by
  simp only [RecordField.isCalled_eq_decide, decide_eq_true_eq, fields, List.forall_mem_cons]
  refine ⟨fun hkey d hd => ?_, fun hkey d hd => ?_, fun hkey d hd => ?_, nofun⟩
  · have hgives := Decoder.gives_bool (h.ignoreCase.isValue hm hkey) depth
    exact ⟨{ d with ignoreCase := some p.ignoreCase },
      { hd with ignoreCase := fun x hx => (Option.some.inj hx).symm }, RecordField.gives_stored hgives⟩
  · have hgives := Decoder.gives_bool (h.isRegex.isValue hm hkey) depth
    exact ⟨{ d with isRegex := some p.isRegex },
      { hd with isRegex := fun x hx => (Option.some.inj hx).symm }, RecordField.gives_stored hgives⟩
  · have hgives := Decoder.gives_string (h.pattern.isValue hm hkey) depth
    exact ⟨{ d with pattern := some p.pattern },
      { hd with pattern := fun x hx => (Option.some.inj hx).symm }, RecordField.gives_stored hgives⟩

theorem gives_decoder {p : SavedPattern} {text : List Char} (h : p.SpelledBy text) {depth : Nat}
    (hdepth : 0 < depth) : Gives (decoder (depth + 1)) text p := by
  obtain ⟨ms, htext, hms⟩ := h
  refine Decoder.gives_record regular_fields (P := fun d => d.PartOf p) htext hdepth
    ⟨by simp, by simp, by simp⟩ not_given_empty hms.count_le_one ?_ (fun m hm => hms.gives hm depth)
    fun d hd hcount => ?_
  · simp only [RecordField.isCalled_eq_decide, fields, List.forall_mem_cons]
    exact ⟨nofun, nofun, fun _ => hms.pattern.count_ne_zero, nofun⟩
  · simp only [RecordField.isCalled_eq_decide, fields, List.forall_mem_cons] at hcount
    obtain ⟨hignoreCase, hisRegex, hpattern, -⟩ := hcount
    rw [ofDraft, hms.ignoreCase.getD_eq id hignoreCase hd.ignoreCase,
      hms.isRegex.getD_eq id hisRegex hd.isRegex, hms.pattern.getD_eq False.elim hpattern hd.pattern]

theorem Faulty.not_accepts {text : List Char} (h : Faulty text) (depth : Nat) :
    ¬ Accepts (decoder depth) text :=
  Decoder.not_accepts_of_faulty regular_fields not_given_empty h

theorem takes_decoder {text : List Char} (h : ValueText text) (depth : Nat) :
    Takes (decoder depth) text :=
  Decoder.takes_record regular_fields h

end SavedPattern

/-! ## Sets -/

namespace PatternSet

/-- An array that spells patterns, each in a way of its own. -/
def PatternsText (patterns : List SavedPattern) (text : List Char) : Prop :=
  ∃ items, ArrayText items text ∧ List.Forall₂ (fun item p => p.SpelledBy item) items patterns

structure Members (s : PatternSet) (ms : List Member) : Prop where
  id : Json.HasField ["id"] (StringText s.id) False ms
  patterns : Json.HasField ["patterns", "symbols"] (PatternsText s.patterns) (s.patterns = []) ms

/-- An object that spells a set. -/
def SpelledBy (s : PatternSet) (text : List Char) : Prop := ∃ ms, ObjectText ms text ∧ s.Members ms

/-- An object with a doubled field, without the field that a set needs, or with a faulty pattern. -/
inductive Faulty (text : List Char) : Prop
  | object (h : Json.FaultyObject [["id"], ["patterns", "symbols"]] [["id"]] text)
  | pattern {ms : List Member} {m : Member} {items : List (List Char)} {item : List Char}
      (h : ObjectText ms text) (hm : m ∈ ms) (hkey : m.key ∈ ["patterns", "symbols"])
      (hvalue : ArrayText items m.value) (hitem : item ∈ items) (hfaulty : SavedPattern.Faulty item)

structure Draft.PartOf (d : Draft) (s : PatternSet) : Prop where
  id : ∀ x ∈ d.id, x = s.id
  patterns : ∀ x ∈ d.patterns, x = s.patterns

theorem regular_fields : RecordField.Regular fields := by
  refine ⟨?_, fun f hf key => RecordField.find_isCalled (by decide +kernel) hf, ?_⟩
  · simp only [fields, List.forall_mem_cons]
    refine ⟨?_, ?_, nofun⟩
    · exact fun depth d text h => RecordField.takes_stored (Decoder.takes_stringNamed h _ depth)
    · exact fun depth d text h => RecordField.takes_stored
        (Decoder.takes_list (fun depth text h => SavedPattern.takes_decoder h depth) h depth)
  · intro f hf f' hf' depth d cs d' rest hread
    simp only [fields, List.mem_cons, List.not_mem_nil, or_false] at hf hf'
    rcases hf with rfl | rfl
    · obtain ⟨x, rfl⟩ := RecordField.of_read_stored hread
      rcases hf' with rfl | rfl <;> simp [RecordField.stored]
    · obtain ⟨x, rfl⟩ := RecordField.of_read_stored hread
      rcases hf' with rfl | rfl <;> simp [RecordField.stored]

theorem not_given_empty : ∀ f ∈ fields, f.isGiven {} = false := by
  simp [fields, RecordField.stored]

theorem Members.count_le_one {s : PatternSet} {ms : List Member} (h : s.Members ms) :
    ∀ f ∈ fields, ms.countP (f.isCalled ·.key) ≤ 1 := by
  simp only [RecordField.isCalled_eq_decide, fields, List.forall_mem_cons]
  exact ⟨h.id.count_le_one, h.patterns.count_le_one, nofun⟩

theorem gives_patterns {patterns : List SavedPattern} {text : List Char} (h : PatternsText patterns text)
    {depth : Nat} (hdepth : 1 < depth) : Gives (SavedPattern.decoder.list (depth + 1)) text patterns := by
  obtain ⟨items, htext, hitems⟩ := h
  obtain ⟨depth, rfl⟩ : ∃ k, depth = k + 1 := ⟨depth - 1, by omega⟩
  exact Decoder.gives_list htext (Nat.succ_pos depth)
    (hitems.imp fun item p hp => SavedPattern.gives_decoder hp (by omega))

theorem Members.gives {s : PatternSet} {ms : List Member} (h : s.Members ms) {m : Member} (hm : m ∈ ms)
    {depth : Nat} (hdepth : 1 < depth) : ∀ f ∈ fields, f.isCalled m.key = true → ∀ d : Draft, d.PartOf s →
      ∃ d' : Draft, d'.PartOf s ∧ Gives (f.read (depth + 1) d) m.value d' := by
  simp only [RecordField.isCalled_eq_decide, decide_eq_true_eq, fields, List.forall_mem_cons]
  refine ⟨fun hkey d hd => ?_, fun hkey d hd => ?_, nofun⟩
  · have hgives := Decoder.gives_string (h.id.isValue hm hkey) (depth + 1)
    exact ⟨{ d with id := some s.id }, { hd with id := fun x hx => (Option.some.inj hx).symm },
      RecordField.gives_stored hgives⟩
  · have hgives := gives_patterns (h.patterns.isValue hm hkey) hdepth
    exact ⟨{ d with patterns := some s.patterns },
      { hd with patterns := fun x hx => (Option.some.inj hx).symm }, RecordField.gives_stored hgives⟩

theorem gives_decoder {s : PatternSet} {text : List Char} (h : s.SpelledBy text) {depth : Nat}
    (hdepth : 2 < depth) : Gives (decoder (depth + 1)) text s := by
  obtain ⟨depth, rfl⟩ : ∃ k, depth = k + 1 := ⟨depth - 1, by omega⟩
  obtain ⟨ms, htext, hms⟩ := h
  refine Decoder.gives_record regular_fields (P := fun d => d.PartOf s) htext (Nat.succ_pos depth)
    ⟨by simp, by simp⟩ not_given_empty hms.count_le_one ?_ (fun m hm => hms.gives hm (by omega))
    fun d hd hcount => ?_
  · simp only [RecordField.isCalled_eq_decide, fields, List.forall_mem_cons]
    exact ⟨fun _ => hms.id.count_ne_zero, nofun, nofun⟩
  · simp only [RecordField.isCalled_eq_decide, fields, List.forall_mem_cons] at hcount
    obtain ⟨hid, hpatterns, -⟩ := hcount
    rw [ofDraft, hms.id.getD_eq False.elim hid hd.id, hms.patterns.getD_eq (fun h => h) hpatterns
      hd.patterns]

theorem Faulty.not_accepts {text : List Char} (h : Faulty text) (depth : Nat) :
    ¬ Accepts (decoder depth) text := by
  cases h with
  | object h => exact Decoder.not_accepts_of_faulty regular_fields not_given_empty h
  | @pattern ms m items item htext hm hkey hvalue hitem hfaulty =>
    intro haccepts
    have hread : ∀ f ∈ fields, ∀ m ∈ ms, f.isCalled m.key = true →
        ∃ d, Accepts (f.read (depth - 1) d) m.value := fun f hf =>
      (Decoder.occurs_of_accepts regular_fields htext not_given_empty haccepts hf).2.2
    simp only [RecordField.isCalled_eq_decide, decide_eq_true_eq, fields, List.forall_mem_cons] at hread
    obtain ⟨-, hpatterns, -⟩ := hread
    obtain ⟨d, haccepts⟩ := hpatterns m hm hkey
    obtain ⟨blanks, rest, ps, hblanks, -, hread⟩ := RecordField.accepts_of_stored haccepts
    obtain ⟨-, hitems⟩ := Decoder.accepts_of_list hvalue
      (fun depth text h => SavedPattern.takes_decoder h depth) hblanks hread
    exact hfaulty.not_accepts _ (hitems item hitem)

theorem Faulty.valueText {text : List Char} (h : Faulty text) : ValueText text := by
  cases h with
  | object h => exact h.valueText
  | pattern h => exact h.valueText

theorem takes_decoder {text : List Char} (h : ValueText text) (depth : Nat) :
    Takes (decoder depth) text :=
  Decoder.takes_record regular_fields h

/-- From a text that holds an object the set or pattern is read that it spells, in whatever way it does.
Where a field of the object, or of a pattern in it, is doubled or missing, nothing is read. -/
theorem decode_of_holds {text : String} {value : List Char} (h : Holds text value) :
    (∀ s : PatternSet, s.SpelledBy value → Json.decode decoder text = .ok s) ∧
      (∀ p : SavedPattern, p.SpelledBy value → Json.decode SavedPattern.decoder text = .ok p) ∧
      (Faulty value → ∃ e, Json.decode decoder text = .error e) ∧
      (SavedPattern.Faulty value → ∃ e, Json.decode SavedPattern.decoder text = .error e) := by
  refine ⟨fun s hs => ?_, fun p hp => ?_, fun hfaulty => ?_, fun hfaulty => ?_⟩
  · exact h.decode_eq_ok (gives_decoder hs (by decide))
  · exact h.decode_eq_ok (SavedPattern.gives_decoder hp (by decide))
  · exact h.decode_eq_error (takes_decoder hfaulty.valueText _) (hfaulty.not_accepts _)
  · exact h.decode_eq_error (SavedPattern.takes_decoder hfaulty.valueText _) (hfaulty.not_accepts _)

/-- A set under former names, with an escape in a key, a pattern whose flags are left out and a member that
is not known. A set that has patterns under both names is refused. -/
theorem decode_of_former_names :
    Json.decode decoder
        "\x7b\"symbols\": [\x7b\"x\": [0, null], \"symbol\": \"ab\"\x7d], \"\\u0069d\": \"old\"\x7d" =
      .ok ⟨"old", [⟨false, true, "ab"⟩]⟩ ∧
    ∃ e, Json.decode decoder "\x7b\"id\": \"old\", \"patterns\": [], \"symbols\": []\x7d" = .error e := by
  have hab : StringText "ab" ['"', 'a', 'b', '"'] := ⟨['a', 'b'], spells_plain (by simp), rfl⟩
  have hold : StringText "old" ['"', 'o', 'l', 'd', '"'] :=
    ⟨['o', 'l', 'd'], spells_plain (by simp), rfl⟩
  have hnumber : ValueText ['0'] := .number (.positive (.intro .zero .none .none))
  have hunknown : ArrayText [['0'], ['n', 'u', 'l', 'l']] "[0, null]".toList :=
    ⟨⟨_, rfl, .item (.first blank_nil) (.item (.next blank_nil blank_space) (.close blank_nil))⟩,
      by simp [hnumber, ValueText.isNull]⟩
  have hobject : ObjectText
      [⟨"x", ['x'], "[0, null]".toList⟩, ⟨"symbol", "symbol".toList, ['"', 'a', 'b', '"']⟩]
      "\x7b\"x\": [0, null], \"symbol\": \"ab\"\x7d".toList := by
    refine ⟨⟨_, rfl, .member (.first blank_nil) blank_nil blank_space
      (.member (.next blank_nil blank_space) blank_nil blank_space (.close blank_nil))⟩, ?_, ?_⟩
    · simp only [List.forall_mem_cons]
      exact ⟨spells_plain (by simp), spells_plain (by simp), nofun⟩
    · simp only [List.forall_mem_cons]
      exact ⟨hunknown.valueText, hab.valueText, nofun⟩
  have harray : ArrayText ["\x7b\"x\": [0, null], \"symbol\": \"ab\"\x7d".toList]
      "[\x7b\"x\": [0, null], \"symbol\": \"ab\"\x7d]".toList :=
    ⟨⟨_, rfl, .item (.first blank_nil) (.close blank_nil)⟩,
      List.forall_mem_singleton.mpr hobject.valueText⟩
  have hpattern : SavedPattern.SpelledBy ⟨false, true, "ab"⟩
      "\x7b\"x\": [0, null], \"symbol\": \"ab\"\x7d".toList :=
    ⟨_, hobject, .leftOut (by decide +kernel) rfl, .leftOut (by decide +kernel) rfl,
      .once (by decide +kernel) (by simp [hab])⟩
  have hpatterns : PatternsText [⟨false, true, "ab"⟩]
      "[\x7b\"x\": [0, null], \"symbol\": \"ab\"\x7d]".toList := ⟨_, harray, .cons hpattern .nil⟩
  have hspelled : SpelledBy ⟨"old", [⟨false, true, "ab"⟩]⟩
      "\x7b\"symbols\": [\x7b\"x\": [0, null], \"symbol\": \"ab\"\x7d], \"\\u0069d\": \"old\"\x7d".toList := by
    refine ⟨[⟨"symbols", "symbols".toList, "[\x7b\"x\": [0, null], \"symbol\": \"ab\"\x7d]".toList⟩,
      ⟨"id", ['\\', 'u', '0', '0', '6', '9', 'd'], ['"', 'o', 'l', 'd', '"']⟩],
      ⟨⟨_, rfl, .member (.first blank_nil) blank_nil blank_space
        (.member (.next blank_nil blank_space) blank_nil blank_space (.close blank_nil))⟩, ?_, ?_⟩,
      .once (by decide +kernel) (by simp [hold]),
      .once (by decide +kernel) (by simpa using hpatterns)⟩
    · simp only [List.forall_mem_cons]
      exact ⟨spells_plain (by simp),
        .number (n := 0x69) (by decide +kernel) rfl rfl (spells_plain (by simp)), nofun⟩
    · simp only [List.forall_mem_cons]
      exact ⟨harray.valueText, hold.valueText, nofun⟩
  have hempty : ArrayText [] ['[', ']'] := ⟨⟨_, rfl, .close blank_nil⟩, nofun⟩
  have hdoubled : ObjectText
      [⟨"id", "id".toList, ['"', 'o', 'l', 'd', '"']⟩, ⟨"patterns", "patterns".toList, ['[', ']']⟩,
        ⟨"symbols", "symbols".toList, ['[', ']']⟩]
      "\x7b\"id\": \"old\", \"patterns\": [], \"symbols\": []\x7d".toList := by
    refine ⟨⟨_, rfl, .member (.first blank_nil) blank_nil blank_space
      (.member (.next blank_nil blank_space) blank_nil blank_space
        (.member (.next blank_nil blank_space) blank_nil blank_space (.close blank_nil)))⟩, ?_, ?_⟩
    · simp only [List.forall_mem_cons]
      exact ⟨spells_plain (by simp), spells_plain (by simp), spells_plain (by simp), nofun⟩
    · simp only [List.forall_mem_cons]
      exact ⟨hold.valueText, hempty.valueText, hempty.valueText, nofun⟩
  have hfaulty : Faulty "\x7b\"id\": \"old\", \"patterns\": [], \"symbols\": []\x7d".toList :=
    .object (.doubled hdoubled (List.mem_cons_of_mem _ List.mem_cons_self) (by decide +kernel))
  have hholds : ∀ text : String, Holds text text.toList := fun text =>
    ⟨[], [], blank_nil, blank_nil, by simp⟩
  exact ⟨(decode_of_holds (hholds _)).1 _ hspelled, (decode_of_holds (hholds _)).2.2.1 hfaulty⟩

end PatternSet

end AnchorOutline
