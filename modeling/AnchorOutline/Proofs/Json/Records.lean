import AnchorOutline.Json.Record
import AnchorOutline.Proofs.Json.Exact

/-!
# Records read back

Decoders read what was written for values of their kind. A record is read back when its members lead
from the empty draft to one that has all required fields.

* `Json.Decoder.reads_string`, `reads_bool`, `reads_count`, `reads_tag`, `reads_list`, `reads_optional` :
  decoders of values;
* `Json.RecordField.readMember_stored` : the step for a field;
* `Json.Decoder.list_eq_ok`, `Json.RecordField.readObject_eq_ok`, `Json.Decoder.openRecord_eq_ok` : when
  lists and objects are read, and to what;
* `Json.Decoder.reads_openRecord`, `Json.Decoder.reads_record` : records.
-/

namespace AnchorOutline.Json

variable {α δ τ : Type}

theorem deeper_eq_ok {depth depth' : Nat} {cs : List Char} :
    deeper depth cs = .ok depth' ↔ 1 < depth ∧ depth' = depth - 1 := by
  unfold deeper
  split_ifs with hdepth
  · exact ⟨nofun, fun h => absurd h.1 (not_lt.mpr hdepth)⟩
  · exact ⟨fun h => ⟨not_le.mp hdepth, (Except.ok.inj h).symm⟩, fun h => congrArg _ h.2.symm⟩

theorem mapError_eq_ok {ε ε' : Type} {f : ε → ε'} {x : Except ε α} {a : α} :
    x.mapError f = .ok a ↔ x = .ok a := by
  cases x <;> simp [Except.mapError]

theorem failExpecting_ne_ok {expected : String} {cs rest : List Char} {x : α} :
    failExpecting expected cs ≠ .ok (x, rest) := by
  intro h
  unfold failExpecting at h
  split at h
  next => cases h
  next =>
    obtain ⟨_, -, h⟩ := of_bind_eq_ok h
    cases h
  next =>
    obtain ⟨_, -, h⟩ := of_bind_eq_ok h
    cases h
  next =>
    obtain ⟨_, -, h⟩ := of_bind_eq_ok h
    cases h
  next =>
    obtain ⟨_, -, h⟩ := of_bind_eq_ok h
    cases h
  next => cases h
  next => cases h
  next =>
    split at h
    next =>
      obtain ⟨_, -, h⟩ := of_bind_eq_ok h
      cases h
    next => cases h

theorem eq_ok_of_decode {decoder : Decoder α} {text : String} {x : α}
    (h : decode decoder text = .ok x) :
    ∃ rest, decoder depthLimit text.toList = .ok (x, rest) := by
  unfold decode at h
  dsimp only at h
  rw [mapError_eq_ok] at h
  obtain ⟨⟨y, rest⟩, hy, h⟩ := of_bind_eq_ok h
  dsimp only at h
  split at h
  next =>
    cases h
    exact ⟨rest, hy⟩
  next => cases h

/-- A value that is read back as it was written is read from its whole text. -/
theorem decode_pretty {decoder : Decoder α} {j : Json} {x : α}
    (h : Reads (decoder depthLimit) (layout 0 j) x) : decode decoder (pretty j) = .ok x := by
  have hread := h.read_eq [] [] blank_nil (by simp [Stops])
  rw [List.nil_append, List.append_nil] at hread
  rw [decode, pretty, String.toList_ofList, hread]
  rfl

namespace Decoder

/-! ## Values -/

theorem reads_string (depth indent : Nat) (s : String) :
    Reads (string depth) (layout indent (.string s)) s := by
  refine ⟨⟨'"', _, rfl, rfl, by decide⟩, fun blanks rest hblanks _ => ?_⟩
  rw [string, stringNamed, skipSpace_append hblanks, layout, layoutString, List.cons_append,
    List.cons_append, skipSpace_cons rfl, List.append_assoc]
  exact readString_escape s rest

theorem reads_bool (depth indent : Nat) (b : Bool) :
    Reads (bool depth) (layout indent (.bool b)) b := by
  cases b with
  | true =>
    refine ⟨⟨'t', _, rfl, rfl, by decide⟩, fun blanks rest hblanks _ => ?_⟩
    rw [bool, skipSpace_append hblanks]
    rfl
  | false =>
    refine ⟨⟨'f', _, rfl, rfl, by decide⟩, fun blanks rest hblanks _ => ?_⟩
    rw [bool, skipSpace_append hblanks]
    rfl

theorem reads_count {n : Nat} (h : n ≤ largestInteger) (depth indent : Nat) :
    Reads (count depth) (layout indent (.integer n)) n := by
  have hwritten : layout indent (.integer n) = Nat.toDigits 10 n := by
    rw [layout, Int.toString_eq_repr, Int.repr_eq_if, if_pos (Int.natCast_nonneg n), Int.toNat_natCast,
      Nat.toList_repr]
  obtain ⟨c, cs, hds, hdigit⟩ := toDigits_eq_cons n
  have hne : ∀ c' : Char, c'.isDigit = false → c ≠ c' := by
    rintro c' hc' rfl
    rw [hdigit] at hc'
    cases hc'
  rw [hwritten, hds]
  refine ⟨⟨c, cs, rfl, isSpace_of_isDigit hdigit, hne ']' rfl⟩, fun blanks rest hblanks hrest => ?_⟩
  have hread := readNumber_toDigits h false hrest
  rw [hds, List.cons_append] at hread
  have hstarts : startsNumber c = true := by simp [startsNumber, hdigit]
  rw [count, skipSpace_append hblanks, List.cons_append, skipSpace_cons (isSpace_of_isDigit hdigit)]
  dsimp only
  have hinteger : integerOf false n rest = .ok (.integer n, rest) := rfl
  rw [if_pos hstarts, readSigned, if_neg (hne '-' rfl), hread, hinteger]
  simp [bind, Except.bind, pure, Except.pure]

theorem reads_tag (name : String) (depth indent : Nat) :
    Reads (tag name depth) (layout indent (.string name)) () := by
  refine ⟨⟨'"', _, rfl, rfl, by decide⟩, fun blanks rest hblanks _ => ?_⟩
  rw [tag, skipSpace_append hblanks, layout, layoutString, List.cons_append, List.cons_append,
    skipSpace_cons rfl, List.append_assoc]
  show choice name depth ('"' :: (escape name.toList ++ ('"' :: rest))) = _
  rw [choice, stringNamed, skipSpace_cons rfl]
  show (do
    let read ← readString (escape name.toList ++ '"' :: rest)
    if read.1 = name then return ((), read.2) else failAt (.unknownVariant read.1 name) read.2 :
    Except Failure (Unit × List Char)) = _
  rw [readString_escape]
  show (if name = name then (pure ((), rest) : Except Failure (Unit × List Char)) else _) = _
  rw [if_pos rfl]
  rfl

/-- What stands between the brackets of a list that is read, and where it is closed. -/
theorem list_eq_ok {item : Decoder α} {depth : Nat} {cs rest : List Char} {xs : List α} :
    list item depth cs = .ok (xs, rest) ↔ 1 < depth ∧ ∃ inside close,
      skipSpace cs = '[' :: inside ∧
      readItems (item (depth - 1)) (inside.length + 1) true inside = .ok (xs, close) ∧
      closeArray close = .ok rest := by
  rw [list]
  constructor
  · intro h
    split at h
    next inside hopen =>
      obtain ⟨depth', hdeeper, h⟩ := of_bind_eq_ok h
      obtain ⟨hdepth, rfl⟩ := deeper_eq_ok.mp hdeeper
      obtain ⟨close, hitems, hclose⟩ := inArray_eq_ok.mp h
      exact ⟨hdepth, inside, close, hopen, hitems, hclose⟩
    next => exact absurd h failExpecting_ne_ok
  · rintro ⟨hdepth, inside, close, hopen, hitems, hclose⟩
    rw [hopen]
    show (deeper depth _ >>= fun depth => inArray (readItems (item depth) _ true inside)) = _
    rw [deeper_eq_ok.mpr ⟨hdepth, rfl⟩]
    exact inArray_eq_ok.mpr ⟨close, hitems, hclose⟩

theorem reads_list {item : Decoder α} {toJson : α → Json} {depth indent : Nat} {xs : List α}
    (hdepth : 0 < depth) (h : ∀ x ∈ xs, Reads (item depth) (layout (indent + 1) (toJson x)) x) :
    Reads (list item (depth + 1)) (layout indent (.array (xs.map toJson))) xs := by
  rw [layout_array]
  refine ⟨⟨'[', _, rfl, rfl, by decide⟩, fun blanks rest hblanks _ => ?_⟩
  refine list_eq_ok.mpr ⟨Nat.succ_lt_succ hdepth, _, _, ?_, readItems_arrayTail h rest, rfl⟩
  rw [skipSpace_append hblanks, List.cons_append, skipSpace_cons rfl]

theorem reads_optional {item : Decoder α} {depth : Nat} {written : List Char} {x : α}
    (h : Reads (item depth) written x) (hnull : written.head? ≠ some 'n') :
    Reads (optional item depth) written (some x) := by
  refine ⟨h.opens, fun blanks rest hblanks hrest => ?_⟩
  have hskip := h.skipSpace_eq hblanks rest
  have hread := h.read_eq [] rest blank_nil hrest
  obtain ⟨c, cs, rfl, -, -⟩ := h.opens
  rw [optional, hskip, List.cons_append]
  split
  next heq => exact absurd (congrArg some (List.cons.inj heq).1) hnull
  next =>
    rw [List.nil_append, List.cons_append] at hread
    rw [hread]
    rfl

end Decoder

/-! ## Fields -/

namespace RecordField

variable {fields : List (RecordField δ)} {other : String → δ → Reader δ} {depth : Nat}

theorem readMember_stored {key name : String} {formerNames : List String} {required : Bool}
    {get : δ → Option τ} {put : δ → Option τ → δ} {decoder : Decoder τ} {d : δ} {x : τ}
    {written : List Char}
    (hfind : fields.find? (·.isCalled key) =
      some (stored name formerNames required get put decoder))
    (hgiven : get d = none) (h : Reads (decoder depth) written x) {rest : List Char}
    (hrest : Stops rest) :
    readMember fields other depth key d (':' :: ' ' :: (written ++ rest)) =
      .ok (put d (some x), rest) := by
  have hread := h.read_eq [' '] rest blank_space hrest
  have hfresh : ¬ (get d).isSome = true := by simp [hgiven]
  rw [readMember, hfind]
  dsimp only [stored]
  rw [if_neg hfresh]
  show (do
    let read ← decoder depth ([' '] ++ (written ++ rest))
    return (put d (some read.1), read.2) : Except Failure (δ × List Char)) = _
  rw [hread]
  rfl

theorem readMember_other {key : String} {d : δ} (hfind : fields.find? (·.isCalled key) = none)
    (cs : List Char) :
    readMember fields other depth key d (':' :: cs) = other key d cs := by
  rw [readMember, hfind]
  rfl

/-- The members of an object that is read lead to a draft that has all required fields. -/
theorem readObject_eq_ok {start d : δ} {cs rest : List Char} :
    readObject fields other depth start cs = .ok (d, rest) ↔
      (∀ f ∈ fields, f.required = true → f.isGiven d = true) ∧ ∃ close,
        readMembers (readMember fields other depth) (cs.length + 1) true start cs = .ok (d, close) ∧
        closeObject close = .ok rest := by
  have hmissing : ∀ d, (fields.find? fun f => f.required && !f.isGiven d) = none ↔
      ∀ f ∈ fields, f.required = true → f.isGiven d = true := by simp
  rw [readObject, inObject_eq_ok]
  constructor
  · rintro ⟨close, hinside, hclose⟩
    obtain ⟨⟨d', close'⟩, hmembers, hinside⟩ := of_bind_eq_ok hinside
    dsimp only at hinside
    split at hinside
    next => cases hinside
    next hnone =>
      cases hinside
      exact ⟨(hmissing _).mp hnone, close, hmembers, hclose⟩
  · rintro ⟨hgiven, close, hmembers, hclose⟩
    refine ⟨close, ?_, hclose⟩
    rw [hmembers]
    dsimp only [bind, Except.bind]
    rw [(hmissing d).mpr hgiven]
    rfl

end RecordField

/-! ## Records -/

namespace Decoder

variable {title : String} {fields : List (RecordField δ)} {start d : δ} {finish : δ → α}
  {depth indent : Nat} {ms : List (String × Json)}

theorem openRecord_eq_ok {other : Nat → String → δ → Reader δ} {cs rest : List Char} {x : α} :
    openRecord title fields other start finish depth cs = .ok (x, rest) ↔ 1 < depth ∧ ∃ inside d,
      skipSpace cs = '{' :: inside ∧
      RecordField.readObject fields (other (depth - 1)) (depth - 1) start inside = .ok (d, rest) ∧
      x = finish d := by
  rw [openRecord]
  constructor
  · intro h
    split at h
    next inside hopen =>
      obtain ⟨depth', hdeeper, h⟩ := of_bind_eq_ok h
      obtain ⟨hdepth, rfl⟩ := deeper_eq_ok.mp hdeeper
      obtain ⟨⟨d, rest'⟩, hobject, h⟩ := of_bind_eq_ok h
      cases h
      exact ⟨hdepth, inside, d, hopen, hobject, rfl⟩
    next => exact absurd h failExpecting_ne_ok
  · rintro ⟨hdepth, inside, d, hopen, hobject, rfl⟩
    rw [hopen]
    show (do
      let depth ← deeper depth _
      let read ← RecordField.readObject fields (other depth) depth start inside
      return (finish read.1, read.2) : Except Failure (α × List Char)) = _
    rw [deeper_eq_ok.mpr ⟨hdepth, rfl⟩]
    show (do
      let read ← RecordField.readObject fields (other (depth - 1)) (depth - 1) start inside
      return (finish read.1, read.2) : Except Failure (α × List Char)) = _
    rw [hobject]
    rfl

theorem reads_openRecord {other : Nat → String → δ → Reader δ} (hdepth : 0 < depth)
    (h : ReadsMembers (RecordField.readMember fields (other depth) depth) (indent + 1) start ms d)
    (hgiven : ∀ f ∈ fields, f.required = true → f.isGiven d = true) :
    Reads (openRecord title fields other start finish (depth + 1)) (layout indent (.object ms))
      (finish d) := by
  rw [layout_object]
  refine ⟨⟨'{', _, rfl, rfl, by decide⟩, fun blanks rest hblanks _ => ?_⟩
  have hobject := RecordField.readObject_eq_ok.mpr ⟨hgiven, _, h.objectTail rest, rfl⟩
  refine openRecord_eq_ok.mpr ⟨Nat.succ_lt_succ hdepth, _, d, ?_, hobject, rfl⟩
  rw [skipSpace_append hblanks, List.cons_append, skipSpace_cons rfl]

theorem reads_record (hdepth : 0 < depth)
    (h : ReadsMembers (RecordField.readMember fields RecordField.ignore depth) (indent + 1) start ms d)
    (hgiven : ∀ f ∈ fields, f.required = true → f.isGiven d = true) :
    Reads (record title fields start finish (depth + 1)) (layout indent (.object ms))
      (finish d) := by
  have hopen : Reads (openRecord title fields (fun _ => RecordField.ignore) start finish (depth + 1))
      (layout indent (.object ms)) (finish d) :=
    reads_openRecord hdepth h hgiven
  refine ⟨hopen.opens, fun blanks rest hblanks hrest => ?_⟩
  have hread := hopen.read_eq [] rest blank_nil hrest
  rw [record, hopen.skipSpace_eq hblanks, layout_object, List.cons_append]
  rw [layout_object, List.nil_append, List.cons_append] at hread
  exact hread

end Decoder

end AnchorOutline.Json
