import AnchorOutline.Json.Printer
import AnchorOutline.Json.Reader
import AnchorOutline.Proofs.Json.Tokens

/-!
# Values read back

Arrays, objects and values of any shape are read as they were written. What stands between brackets
is left to a reader of its own, so the same lemmas serve records.

* `Json.Reads` : a reader gives a value for what was written;
* `Json.readItems_arrayTail`, `Json.ReadsMembers.objectTail` : the insides of brackets;
* `Json.Plain` : values that may be written and read back, brackets nested less deep than a limit;
* `Json.reads_value` : plain values are read back.
-/

namespace AnchorOutline.Json

variable {α σ : Type}

/-! ## Readers and what was written -/

/-- A reader gives a value for what was written for it, whatever space stands before that and whatever
stops it. -/
structure Reads (read : Reader α) (written : List Char) (x : α) : Prop where
  opens : ∃ c cs, written = c :: cs ∧ isSpace c = false ∧ c ≠ ']'
  read_eq : ∀ blanks rest, Blank blanks → Stops rest → read (blanks ++ (written ++ rest)) = .ok (x, rest)

theorem Reads.skipSpace_eq {read : Reader α} {written : List Char} {x : α}
    (h : Reads read written x) {blanks : List Char} (hblanks : Blank blanks) (rest : List Char) :
    skipSpace (blanks ++ (written ++ rest)) = written ++ rest := by
  obtain ⟨c, cs, rfl, hc, -⟩ := h.opens
  rw [skipSpace_append hblanks, List.cons_append, skipSpace_cons hc]

/-! ## Arrays -/

def arrayTail (depth : Nat) : List Json → List Char
  | [] => [']']
  | x :: xs =>
    breakAt (depth + 1) ++ (layout (depth + 1) x ++ (layoutItems (depth + 1) xs ++
      (breakAt depth ++ [']'])))

theorem layout_array (depth : Nat) (xs : List Json) :
    layout depth (.array xs) = '[' :: arrayTail depth xs := by
  cases xs with
  | nil => rw [layout, arrayTail]
  | cons x xs => simp [layout, arrayTail]

theorem length_le_layoutItems (depth : Nat) (xs : List Json) :
    xs.length ≤ (layoutItems depth xs).length := by
  induction xs with
  | nil => simp [layoutItems]
  | cons x xs ih =>
    simp only [layoutItems, List.length_cons, List.length_append]
    omega

theorem length_le_arrayTail (depth : Nat) (xs : List Json) :
    xs.length ≤ (arrayTail depth xs).length := by
  cases xs with
  | nil => simp
  | cons x xs =>
    have := length_le_layoutItems (depth + 1) xs
    simp only [arrayTail, List.length_cons, List.length_append]
    omega

section Items

variable {item : Reader α} {toJson : α → Json} {depth : Nat}

theorem nextItem_first {x : α} {written : List Char} (h : Reads item written x) (depth : Nat)
    (rest : List Char) :
    nextItem true (breakAt depth ++ (written ++ rest)) = .ok (true, written ++ rest) := by
  have hskip := h.skipSpace_eq (blank_breakAt depth) rest
  obtain ⟨c, cs, rfl, hc, hne⟩ := h.opens
  rw [nextItem, hskip, List.cons_append]
  split
  next heq => cases heq
  next heq => exact absurd (List.cons.inj heq).1 hne
  next heq =>
    cases heq
    rfl

theorem nextItem_comma {x : α} {written : List Char} (h : Reads item written x) (depth : Nat)
    (rest : List Char) :
    nextItem false (',' :: (breakAt depth ++ (written ++ rest))) = .ok (true, written ++ rest) := by
  have hskip := h.skipSpace_eq (blank_breakAt depth) rest
  obtain ⟨c, cs, rfl, hc, hne⟩ := h.opens
  rw [nextItem, skipSpace_cons rfl]
  show (if false = true then _ else if ',' = ',' then _ else _) = _
  rw [if_neg (by decide), if_pos rfl, hskip, List.cons_append]
  split
  next heq => cases heq
  next heq => exact absurd (List.cons.inj heq).1 hne
  next => rfl

theorem nextItem_close {blanks : List Char} (h : Blank blanks) (first : Bool) (rest : List Char) :
    nextItem first (blanks ++ ']' :: rest) = .ok (false, ']' :: rest) := by
  rw [nextItem, skipSpace_append h, skipSpace_cons rfl]
  rfl

theorem readItems_item {first : Bool} {n : Nat} {cs cs₁ cs₂ cs₃ : List Char} {x : α} {xs : List α}
    (hnext : nextItem first cs = .ok (true, cs₁)) (hitem : item cs₁ = .ok (x, cs₂))
    (hrest : readItems item n false cs₂ = .ok (xs, cs₃)) :
    readItems item (n + 1) first cs = .ok (x :: xs, cs₃) := by
  simp [readItems, hnext, hitem, hrest, bind, Except.bind, pure, Except.pure]

theorem readItems_end {first : Bool} {cs cs₁ : List Char}
    (hnext : nextItem first cs = .ok (false, cs₁)) (n : Nat) :
    readItems item (n + 1) first cs = .ok ([], cs₁) := by
  simp [readItems, hnext, bind, Except.bind, pure, Except.pure]

theorem stops_layoutItems (depth : Nat) (xs : List Json) (outer : Nat) (rest : List Char) :
    Stops (layoutItems depth xs ++ (breakAt outer ++ rest)) := by
  cases xs with
  | nil => exact stops_breakAt outer rest
  | cons x xs => exact stops_comma _

theorem readItems_layoutItems {xs : List α}
    (h : ∀ x ∈ xs, Reads item (layout depth (toJson x)) x) {n : Nat} (hn : xs.length < n)
    (outer : Nat) (rest : List Char) :
    readItems item n false
      (layoutItems depth (xs.map toJson) ++ (breakAt outer ++ ']' :: rest)) =
        .ok (xs, ']' :: rest) := by
  obtain ⟨n, rfl⟩ : ∃ k, n = k + 1 := ⟨n - 1, by omega⟩
  induction xs generalizing n with
  | nil => exact readItems_end (nextItem_close (blank_breakAt outer) false rest) n
  | cons x xs ih =>
    simp only [List.length_cons, Nat.add_lt_add_iff_right] at hn
    have hx := h x List.mem_cons_self
    obtain ⟨n, rfl⟩ : ∃ k, n = k + 1 := ⟨n - 1, by omega⟩
    have hitem := hx.read_eq [] _ blank_nil (stops_layoutItems depth (xs.map toJson) outer (']' :: rest))
    have hrest := ih (fun y hy => h y (List.mem_cons_of_mem x hy)) n hn
    rw [List.map_cons, layoutItems]
    simp only [List.cons_append, List.append_assoc]
    exact readItems_item (nextItem_comma hx depth _) hitem hrest

theorem readItems_arrayTail {xs : List α}
    (h : ∀ x ∈ xs, Reads item (layout (depth + 1) (toJson x)) x) (rest : List Char) :
    readItems item ((arrayTail depth (xs.map toJson) ++ rest).length + 1) true
      (arrayTail depth (xs.map toJson) ++ rest) = .ok (xs, ']' :: rest) := by
  have hlength : xs.length ≤ (arrayTail depth (xs.map toJson) ++ rest).length := by
    have := length_le_arrayTail depth (xs.map toJson)
    rw [List.length_map] at this
    rw [List.length_append]
    omega
  generalize (arrayTail depth (xs.map toJson) ++ rest).length = n at hlength
  cases xs with
  | nil => exact readItems_end (by rw [nextItem]; rfl) n
  | cons x xs =>
    obtain ⟨n, rfl⟩ : ∃ k, n = k + 1 := ⟨n - 1, by simp at hlength; omega⟩
    have hx := h x List.mem_cons_self
    have hitem := hx.read_eq [] _ blank_nil
      (stops_layoutItems (depth + 1) (xs.map toJson) depth (']' :: rest))
    have hrest := readItems_layoutItems (fun y hy => h y (List.mem_cons_of_mem x hy))
      (n := n + 1)
      (Nat.lt_succ_of_le (by simpa using hlength)) depth rest
    rw [List.map_cons, arrayTail]
    simp only [List.append_assoc, List.singleton_append]
    exact readItems_item (nextItem_first hx (depth + 1) _) hitem hrest

end Items

/-! ## Objects -/

def objectTail (depth : Nat) : List (String × Json) → List Char
  | [] => ['}']
  | (k, v) :: ms =>
    breakAt (depth + 1) ++ (layoutString k ++ (':' :: ' ' :: (layout (depth + 1) v ++
      (layoutMembers (depth + 1) ms ++ (breakAt depth ++ ['}'])))))

theorem layout_object (depth : Nat) (ms : List (String × Json)) :
    layout depth (.object ms) = '{' :: objectTail depth ms := by
  cases ms with
  | nil => rw [layout, objectTail]
  | cons m ms => simp [layout, objectTail]

theorem length_le_layoutMembers (depth : Nat) (ms : List (String × Json)) :
    ms.length ≤ (layoutMembers depth ms).length := by
  induction ms with
  | nil => simp [layoutMembers]
  | cons m ms ih =>
    simp only [layoutMembers, List.length_cons, List.length_append]
    omega

theorem length_le_objectTail (depth : Nat) (ms : List (String × Json)) :
    ms.length ≤ (objectTail depth ms).length := by
  cases ms with
  | nil => simp
  | cons m ms =>
    have := length_le_layoutMembers (depth + 1) ms
    simp only [objectTail, List.length_cons, List.length_append]
    omega

theorem stops_layoutMembers (depth : Nat) (ms : List (String × Json)) (outer : Nat)
    (rest : List Char) : Stops (layoutMembers depth ms ++ (breakAt outer ++ rest)) := by
  cases ms with
  | nil => exact stops_breakAt outer rest
  | cons m ms => exact stops_comma _

theorem nextKey_first (depth : Nat) (key : String) (rest : List Char) :
    nextKey true (breakAt depth ++ (layoutString key ++ rest)) = .ok (some key, rest) := by
  rw [nextKey, skipSpace_append (blank_breakAt depth), layoutString, List.cons_append,
    List.cons_append, skipSpace_cons rfl, List.append_assoc]
  show (do
    let read ← readString (escape key.toList ++ '"' :: rest)
    return (some read.1, read.2) : Except Failure (Option String × List Char)) = _
  rw [readString_escape]
  rfl

theorem nextKey_comma (depth : Nat) (key : String) (rest : List Char) :
    nextKey false (',' :: (breakAt depth ++ (layoutString key ++ rest))) = .ok (some key, rest) := by
  rw [nextKey, skipSpace_cons rfl]
  show (if false = true then _ else if ',' = ',' then _ else _) = _
  rw [if_neg (by decide), if_pos rfl, skipSpace_append (blank_breakAt depth), layoutString,
    List.cons_append, List.cons_append, skipSpace_cons rfl, List.append_assoc]
  show (do
    let read ← readString (escape key.toList ++ '"' :: rest)
    return (some read.1, read.2) : Except Failure (Option String × List Char)) = _
  rw [readString_escape]
  rfl

theorem nextKey_close {blanks : List Char} (h : Blank blanks) (first : Bool) (rest : List Char) :
    nextKey first (blanks ++ '}' :: rest) = .ok (none, '}' :: rest) := by
  rw [nextKey, skipSpace_append h, skipSpace_cons rfl]
  rfl

section Members

variable {member : String → σ → Reader σ} {depth : Nat}

/-- A step for members takes the members that were written at a depth, one after the other, from one
state to another. -/
inductive ReadsMembers (member : String → σ → Reader σ) (depth : Nat) :
    σ → List (String × Json) → σ → Prop
  | nil (s : σ) : ReadsMembers member depth s [] s
  | cons {s s' s'' : σ} {key : String} {value : Json} {ms : List (String × Json)}
      (first : ∀ rest, Stops rest →
        member key s (':' :: ' ' :: (layout depth value ++ rest)) = .ok (s', rest))
      (others : ReadsMembers member depth s' ms s'') :
      ReadsMembers member depth s ((key, value) :: ms) s''

theorem readMembers_member {first : Bool} {n : Nat} {s s' s'' : σ} {key : String}
    {cs cs₁ cs₂ cs₃ : List Char} (hnext : nextKey first cs = .ok (some key, cs₁))
    (hmember : member key s cs₁ = .ok (s', cs₂))
    (hrest : readMembers member n false s' cs₂ = .ok (s'', cs₃)) :
    readMembers member (n + 1) first s cs = .ok (s'', cs₃) := by
  simp [readMembers, hnext, hmember, hrest, bind, Except.bind]

theorem readMembers_end {first : Bool} {cs cs₁ : List Char}
    (hnext : nextKey first cs = .ok (none, cs₁)) (n : Nat) (s : σ) :
    readMembers member (n + 1) first s cs = .ok (s, cs₁) := by
  simp [readMembers, hnext, bind, Except.bind, pure, Except.pure]

theorem ReadsMembers.layoutMembers {s s' : σ} {ms : List (String × Json)}
    (h : ReadsMembers member depth s ms s') {n : Nat} (hn : ms.length < n) (outer : Nat)
    (rest : List Char) :
    readMembers member n false s (layoutMembers depth ms ++ (breakAt outer ++ '}' :: rest)) =
      .ok (s', '}' :: rest) := by
  obtain ⟨n, rfl⟩ : ∃ k, n = k + 1 := ⟨n - 1, by omega⟩
  induction h generalizing n with
  | nil s => exact readMembers_end (nextKey_close (blank_breakAt outer) false rest) n s
  | @cons s s₁ s' key value ms hfirst _ ih =>
    simp only [List.length_cons, Nat.add_lt_add_iff_right] at hn
    obtain ⟨n, rfl⟩ : ∃ k, n = k + 1 := ⟨n - 1, by omega⟩
    rw [Json.layoutMembers]
    simp only [List.cons_append, List.append_assoc, List.nil_append]
    exact readMembers_member (nextKey_comma depth key _)
      (hfirst _ (stops_layoutMembers depth ms outer ('}' :: rest))) (ih n hn)

theorem ReadsMembers.objectTail {s s' : σ} {ms : List (String × Json)}
    (h : ReadsMembers member (depth + 1) s ms s') (rest : List Char) :
    readMembers member ((objectTail depth ms ++ rest).length + 1) true s
      (objectTail depth ms ++ rest) = .ok (s', '}' :: rest) := by
  have hlength : ms.length ≤ (Json.objectTail depth ms ++ rest).length := by
    have := length_le_objectTail depth ms
    rw [List.length_append]
    omega
  generalize (Json.objectTail depth ms ++ rest).length = n at hlength
  cases h with
  | nil => exact readMembers_end (by rw [nextKey]; rfl) n s
  | @cons _ s₁ _ key value ms hfirst hothers =>
    obtain ⟨n, rfl⟩ : ∃ k, n = k + 1 := ⟨n - 1, by simp at hlength; omega⟩
    have hrest := hothers.layoutMembers (n := n + 1)
      (Nat.lt_succ_of_le (by simpa using hlength)) depth rest
    rw [Json.objectTail]
    simp only [List.append_assoc, List.cons_append, List.nil_append]
    exact readMembers_member (nextKey_first (depth + 1) key _)
      (hfirst _ (stops_layoutMembers (depth + 1) ms depth ('}' :: rest))) hrest

/-- Behind the first member of an object, once that is read, the further ones are read. -/
theorem readMembers_first {s s' : σ} {key : String} {value : Json} {ms : List (String × Json)}
    (hfirst : ∀ rest, Stops rest →
      member key s (':' :: ' ' :: (layout (depth + 1) value ++ rest)) = .ok (s', rest))
    (n : Nat) (rest : List Char) :
    ∃ cs, readMembers member (n + 1) true s (objectTail depth ((key, value) :: ms) ++ rest) =
      readMembers member n false s' cs := by
  refine ⟨layoutMembers (depth + 1) ms ++ (breakAt depth ++ '}' :: rest), ?_⟩
  have hmember := hfirst _ (stops_layoutMembers (depth + 1) ms depth ('}' :: rest))
  rw [objectTail, readMembers]
  simp only [List.append_assoc, List.cons_append, List.nil_append]
  rw [nextKey_first]
  simp only [Bind.bind, Except.bind, hmember]

end Members

/-! ## Members in order -/

theorem insertMember_of_lt {key : String} {ms : List (String × Json)} (h : ∀ m ∈ ms, m.1 < key)
    (value : Json) : insertMember key value ms = ms ++ [(key, value)] := by
  induction ms with
  | nil => rfl
  | cons m ms ih =>
    have hm : m.1 < key := h m List.mem_cons_self
    rw [insertMember, if_neg (lt_asymm hm), if_neg (ne_of_gt hm),
      ih fun m' hm' => h m' (List.mem_cons_of_mem m hm'), List.cons_append]

/-- The step by which an object of any members is read. -/
def readAnyMember (depth : Nat) (key : String) (ms : List (String × Json)) :
    Reader (List (String × Json)) := fun cs => do
  let cs ← readColon cs
  let (v, cs) ← readValue depth cs
  return (insertMember key v ms, cs)

theorem readAnyMember_colon {depth indent : Nat} {key : String} {value : Json}
    {ms : List (String × Json)} (hvalue : Reads (readValue depth) (layout indent value) value)
    (hkeys : ∀ m ∈ ms, m.1 < key) {rest : List Char} (hrest : Stops rest) :
    readAnyMember depth key ms (':' :: ' ' :: (layout indent value ++ rest)) =
      .ok (ms ++ [(key, value)], rest) := by
  show (do
    let (v, cs) ← readValue depth ([' '] ++ (layout indent value ++ rest))
    return (insertMember key v ms, cs) : Except Failure (List (String × Json) × List Char)) = _
  rw [hvalue.read_eq [' '] rest blank_space hrest, ← insertMember_of_lt hkeys]
  rfl

/-- Members in increasing order of their keys are read back one after the other. -/
theorem readsMembers_ordered {depth indent : Nat} {done ms : List (String × Json)}
    (hvalues : ∀ m ∈ ms, Reads (readValue depth) (layout indent m.2) m.2)
    (hordered : (done ++ ms).Pairwise (·.1 < ·.1)) :
    ReadsMembers (readAnyMember depth) indent done ms (done ++ ms) := by
  induction ms generalizing done with
  | nil => simpa using ReadsMembers.nil done
  | cons m ms ih =>
    have hkeys : ∀ m' ∈ done, m'.1 < m.1 := fun m' hm' =>
      (List.pairwise_append.mp hordered).2.2 m' hm' m List.mem_cons_self
    rw [List.append_cons] at hordered ⊢
    exact .cons (fun rest => readAnyMember_colon (hvalues m List.mem_cons_self) hkeys)
      (ih (fun m' hm' => hvalues m' (List.mem_cons_of_mem m hm')) hordered)

/-! ## Numbers -/

def Number.toJson : Number → Json
  | .integer i => .integer i
  | .double bits => .double bits

theorem readValue_number {c : Char} (h : c = '-' ∨ c.isDigit = true) {blanks : List Char}
    (hblanks : Blank blanks) (depth : Nat) (cs : List Char) :
    readValue depth (blanks ++ c :: cs) = do
      let (n, rest) ← readNumber (c == '-') (if c = '-' then cs else c :: cs)
      return (n.toJson, rest) := by
  have hspace : isSpace c = false := by
    rcases h with rfl | h
    · rfl
    · exact isSpace_of_isDigit h
  have hletter : ∀ c' : Char, c' ≠ '-' → c'.isDigit = false → c ≠ c' := by
    rintro c' hminus hdigit rfl
    rcases h with h | h
    · exact hminus h
    · rw [h] at hdigit
      cases hdigit
  have htest : (decide (c = '-') || c.isDigit) = true := by simpa using h
  rw [readValue, skipSpace_append hblanks, skipSpace_cons hspace]
  split
  next heq => cases heq
  next heq => exact absurd (List.cons.inj heq).1 (hletter 'n' (by decide) rfl)
  next heq => exact absurd (List.cons.inj heq).1 (hletter 't' (by decide) rfl)
  next heq => exact absurd (List.cons.inj heq).1 (hletter 'f' (by decide) rfl)
  next heq => exact absurd (List.cons.inj heq).1 (hletter '"' (by decide) rfl)
  next heq => exact absurd (List.cons.inj heq).1 (hletter '[' (by decide) rfl)
  next heq => exact absurd (List.cons.inj heq).1 (hletter '{' (by decide) rfl)
  next heq =>
    cases heq
    rw [if_pos htest]
    cases readNumber (c == '-') (if c = '-' then cs else c :: cs) with
    | error e => rfl
    | ok r =>
      obtain ⟨n, rest⟩ := r
      cases n <;> rfl

theorem reads_integer {n : Int} (h : -2 ^ 63 ≤ n ∧ n < 2 ^ 64) (depth indent : Nat) :
    Reads (readValue depth) (layout indent (.integer n)) (.integer n) := by
  rw [layout, Int.toString_eq_repr, Int.repr_eq_if]
  by_cases hn : 0 ≤ n
  · rw [if_pos hn, Nat.toList_repr]
    obtain ⟨c, cs, hds, hdigit⟩ := toDigits_eq_cons n.toNat
    have hminus : c ≠ '-' := by
      rintro rfl
      cases hdigit
    have hbracket : c ≠ ']' := by
      rintro rfl
      cases hdigit
    refine ⟨⟨c, cs, hds, isSpace_of_isDigit hdigit, hbracket⟩, fun blanks rest hblanks hrest => ?_⟩
    have hfits : n.toNat ≤ largestInteger := by
      show n.toNat ≤ 2 ^ 64 - 1
      omega
    have hread := readNumber_toDigits hfits false hrest
    rw [hds, List.cons_append] at hread
    rw [hds, List.cons_append, readValue_number (.inr hdigit) hblanks, if_neg hminus,
      beq_eq_false_iff_ne.mpr hminus, hread]
    show Except.ok (Json.integer n.toNat, rest) = _
    rw [Int.toNat_of_nonneg hn]
  · rw [if_neg hn, String.toList_append, Nat.toList_repr]
    refine ⟨⟨'-', _, rfl, rfl, by decide⟩, fun blanks rest hblanks hrest => ?_⟩
    have hmagnitude : (-n).toNat ≤ largestInteger := by
      show (-n).toNat ≤ 2 ^ 64 - 1
      omega
    have hread := readNumber_toDigits hmagnitude true hrest
    have hwritten : "-".toList ++ Nat.toDigits 10 (-n).toNat ++ rest =
        '-' :: (Nat.toDigits 10 (-n).toNat ++ rest) := rfl
    rw [hwritten, readValue_number (.inl rfl) hblanks, if_pos rfl, beq_self_eq_true, hread,
      integerOf]
    have hfits : ¬ ((-n).toNat = 0 ∨ Nat.pow 2 63 < (-n).toNat) := by
      show ¬ ((-n).toNat = 0 ∨ 2 ^ 63 < (-n).toNat)
      omega
    rw [if_neg (by simp), if_neg hfits]
    show Except.ok (Json.integer (-((-n).toNat : Int)), rest) = _
    rw [Int.toNat_of_nonneg (by omega), Int.neg_neg]

/-! ## Values -/

/-- Values that may be read, brackets nested less deep than `depth`, and that are written exactly: an
integer has 64 bits, no number is a double, and the members of an object are in increasing order of
their keys. -/
def Plain : Nat → Json → Prop
  | _, .null | _, .bool _ | _, .string _ => True
  | _, .integer n => -2 ^ 63 ≤ n ∧ n < 2 ^ 64
  | _, .double _ => False
  | 0, .array _ | 0, .object _ => False
  | depth + 1, .array items => 0 < depth ∧ ∀ x ∈ items, Plain depth x
  | depth + 1, .object members =>
    0 < depth ∧ members.Pairwise (·.1 < ·.1) ∧ ∀ m ∈ members, Plain depth m.2

theorem reads_of_cons {depth : Nat} {c : Char} {cs : List Char} {j : Json} (hc : isSpace c = false)
    (hne : c ≠ ']') (h : ∀ rest, readValue depth (c :: (cs ++ rest)) = .ok (j, rest)) :
    Reads (readValue depth) (c :: cs) j := by
  refine ⟨⟨c, cs, rfl, hc, hne⟩, fun blanks rest hblanks _ => ?_⟩
  rw [← h rest, readValue, readValue, skipSpace_append hblanks, List.cons_append]

theorem reads_string (s : String) (depth indent : Nat) :
    Reads (readValue depth) (layout indent (.string s)) (.string s) := by
  rw [layout, layoutString, List.cons_append]
  refine reads_of_cons rfl (by decide) fun rest => ?_
  rw [readValue, skipSpace_cons rfl, List.append_assoc]
  show (do
    let read ← readString (escape s.toList ++ '"' :: rest)
    return (.string read.1, read.2) : Except Failure (Json × List Char)) = _
  rw [readString_escape]
  rfl

theorem reads_array {depth indent : Nat} {items : List Json} (hdepth : 0 < depth)
    (h : ∀ x ∈ items, Reads (readValue depth) (layout (indent + 1) x) x) :
    Reads (readValue (depth + 1)) (layout indent (.array items)) (.array items) := by
  obtain ⟨depth, rfl⟩ : ∃ k, depth = k + 1 := ⟨depth - 1, by omega⟩
  have hread := @readItems_arrayTail _ (readValue (depth + 1)) id indent items h
  rw [List.map_id] at hread
  rw [layout_array]
  refine reads_of_cons rfl (by decide) fun rest => ?_
  rw [readValue, skipSpace_cons rfl]
  show (do
    let read ← inArray (readItems (readValue (depth + 1)) _ true _)
    return (.array read.1, read.2) : Except Failure (Json × List Char)) = _
  rw [hread rest]
  rfl

theorem reads_object {depth indent : Nat} {members : List (String × Json)} (hdepth : 0 < depth)
    (hordered : members.Pairwise (·.1 < ·.1))
    (h : ∀ m ∈ members, Reads (readValue depth) (layout (indent + 1) m.2) m.2) :
    Reads (readValue (depth + 1)) (layout indent (.object members)) (.object members) := by
  obtain ⟨depth, rfl⟩ : ∃ k, depth = k + 1 := ⟨depth - 1, by omega⟩
  have hmembers : ReadsMembers (readAnyMember (depth + 1)) (indent + 1) [] members members :=
    readsMembers_ordered h hordered
  have hread := hmembers.objectTail
  rw [layout_object]
  refine reads_of_cons rfl (by decide) fun rest => ?_
  rw [readValue, skipSpace_cons rfl]
  show (do
    let read ← inObject (readMembers (readAnyMember (depth + 1)) _ true [] _)
    return (.object read.1, read.2) : Except Failure (Json × List Char)) = _
  rw [hread rest]
  rfl

theorem reads_value {depth : Nat} {j : Json} (h : Plain depth j) (indent : Nat) :
    Reads (readValue depth) (layout indent j) j := by
  induction depth using Nat.strongRecOn generalizing j indent with
  | ind depth ih =>
    cases j with
    | null => exact reads_of_cons rfl (by decide) fun rest => by rw [readValue]; rfl
    | bool b =>
      cases b with
      | true => exact reads_of_cons rfl (by decide) fun rest => by rw [readValue]; rfl
      | false => exact reads_of_cons rfl (by decide) fun rest => by rw [readValue]; rfl
    | integer n => exact reads_integer (by simpa only [Plain] using h) depth indent
    | double bits => simp only [Plain] at h
    | string s => exact reads_string s depth indent
    | array items =>
      obtain _ | depth := depth
      · simp only [Plain] at h
      obtain ⟨hdepth, hitems⟩ := h
      exact reads_array hdepth fun x hx =>
        ih depth (Nat.lt_succ_self depth) (hitems x hx) (indent + 1)
    | object members =>
      obtain _ | depth := depth
      · simp only [Plain] at h
      obtain ⟨hdepth, hordered, hvalues⟩ := h
      exact reads_object hdepth hordered fun m hm =>
        ih depth (Nat.lt_succ_self depth) (hvalues m hm) (indent + 1)

end AnchorOutline.Json
