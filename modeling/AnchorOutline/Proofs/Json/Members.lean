import AnchorOutline.Proofs.Json.Taking

/-!
# Records and their members

It is known of a record that is read from an object how often each of its fields occurs among the members of
the object, under any of its names and wherever it stands, and that the fields that have to be there are.
Where they occur as they should, and their values can be read, the record is read.

* `Json.RecordField.Regular` : fields that can be told from each other;
* `Json.RecordField.Occurs`, `Json.ObjectTail.of_readMembers` : the fields of an object that was read;
* `Json.ObjectTail.readMembers_eq` : members that are read;
* `Json.HasField`, `Json.FaultyObject` : fields of an object, by their names;
* `Json.Decoder.takes_record`, `Json.Decoder.gives_record` : records;
* `Json.Decoder.occurs_of_accepts`, `Json.Decoder.not_accepts_of_faulty` : objects that are no records.
-/

namespace AnchorOutline.Json

variable {α δ τ : Type} {first : Bool} {lead : List Char}

/-! ## Objects -/

theorem nextKey_lead (h : Lead first lead) (cs : List Char) :
    nextKey first (lead ++ '"' :: cs) = (do
      let (key, rest) ← readString cs
      return (some key, rest)) := by
  cases h with
  | first h =>
    rw [nextKey, skipSpace_append h, skipSpace_cons rfl]
    rfl
  | next hbefore hafter =>
    rw [nextKey, List.append_assoc, skipSpace_append hbefore, List.cons_append, skipSpace_cons rfl]
    show (if false = true then _ else if ',' = ',' then _ else _) = _
    rw [if_neg (by decide), if_pos rfl, skipSpace_append hafter, skipSpace_cons rfl]
    rfl

theorem readColon_append {before : List Char} (h : Blank before) (cs : List Char) :
    readColon (before ++ ':' :: cs) = .ok cs := by
  rw [readColon, skipSpace_append h, skipSpace_cons rfl]
  rfl

theorem ObjectTail.length_lt {ms : List Member} {tail : List Char} (h : ObjectTail first ms tail) :
    ms.length < tail.length := by
  induction h with
  | close => simp
  | member hlead _ _ _ ih =>
    simp only [List.length_cons, List.length_append]
    omega

theorem closeObject_close {blanks : List Char} (h : Blank blanks) (rest : List Char) :
    closeObject (blanks ++ '}' :: rest) = .ok rest := by
  rw [closeObject, skipSpace_append h, skipSpace_cons rfl]
  rfl

namespace RecordField

variable {fields : List (RecordField δ)} {depth : Nat}

/-- Fields that take what they are read from, have names of their own, and are given just when they were
read. -/
structure Regular (fields : List (RecordField δ)) : Prop where
  takes : ∀ f ∈ fields, ∀ depth d text, ValueText text → Takes (f.read depth d) text
  find : ∀ f ∈ fields, ∀ key, f.isCalled key = true → fields.find? (·.isCalled key) = some f
  given : ∀ f ∈ fields, ∀ f' ∈ fields, ∀ depth d cs d' rest, f.read depth d cs = .ok (d', rest) →
    f'.isGiven d' = (f'.isGiven d || f'.name == f.name)

def names (f : RecordField δ) : List String := f.name :: f.formerNames

theorem isCalled_eq_decide (f : RecordField δ) (key : String) :
    f.isCalled key = decide (key ∈ f.names) := by
  rw [Bool.eq_iff_iff, decide_eq_true_eq, isCalled, Bool.or_eq_true, beq_iff_eq, List.contains_iff_mem,
    names, List.mem_cons, @eq_comm _ key]

/-- Where no name is one of two fields, the field that is called by a key is found. -/
theorem find_isCalled (h : (fields.flatMap names).Nodup) {f : RecordField δ} (hf : f ∈ fields)
    {key : String} (hcalled : f.isCalled key = true) :
    fields.find? (·.isCalled key) = some f := by
  induction fields with
  | nil => cases hf
  | cons g fields ih =>
    rw [List.flatMap_cons, List.nodup_append] at h
    obtain ⟨-, hnodup, hdisjoint⟩ := h
    rcases List.mem_cons.mp hf with rfl | hf
    · exact List.find?_cons_of_pos (p := fun f : RecordField δ => f.isCalled key) hcalled
    · have hother : ¬ g.isCalled key = true := by
        rw [isCalled_eq_decide, decide_eq_true_eq] at hcalled ⊢
        exact fun hown => hdisjoint key hown key (List.mem_flatMap.mpr ⟨f, hf, hcalled⟩) rfl
      rw [List.find?_cons_of_neg (p := fun f : RecordField δ => f.isCalled key) hother]
      exact ih hnodup hf

theorem isCalled_name (f : RecordField δ) : f.isCalled f.name = true := by simp [isCalled]

namespace Regular

variable (hfields : Regular fields)
include hfields

theorem eq_of_isCalled {f f' : RecordField δ} (hf : f ∈ fields) (hf' : f' ∈ fields) {key : String}
    (h : f.isCalled key = true) (h' : f'.isCalled key = true) : f = f' :=
  Option.some.inj ((hfields.find f hf key h).symm.trans (hfields.find f' hf' key h'))

/-- Behind a member the field that it is called by is given, and no other one. -/
theorem given_of_isCalled {f : RecordField δ} (hf : f ∈ fields) {key : String}
    (hcalled : f.isCalled key = true) {d d' : δ} {cs rest : List Char}
    (hread : f.read depth d cs = .ok (d', rest)) {f' : RecordField δ} (hf' : f' ∈ fields) :
    f'.isGiven d' = (f'.isGiven d || f'.isCalled key) := by
  rw [hfields.given f hf f' hf' depth d cs d' rest hread]
  congr 1
  cases hcalled' : f'.isCalled key with
  | true =>
    obtain rfl := hfields.eq_of_isCalled hf hf' hcalled hcalled'
    exact beq_self_eq_true f.name
  | false =>
    refine beq_eq_false_iff_ne.mpr fun hname => ?_
    have hown : f.isCalled f'.name = true := hname ▸ f.isCalled_name
    obtain rfl := hfields.eq_of_isCalled hf hf' hown f'.isCalled_name
    rw [hcalled] at hcalled'
    cases hcalled'

/-- A member that is read is read to the end of its value. A field that it is called by was not given
before. -/
theorem of_readMember {key : String} {value before after rest cs : List Char} (hvalue : ValueText value)
    (hbefore : Blank before) (hafter : Blank after) (hrest : Follows rest) {d d' : δ}
    (hread : readMember fields ignore depth key d (before ++ ':' :: (after ++ (value ++ rest))) =
      .ok (d', cs)) :
    cs = rest ∧ ∀ f ∈ fields, f.isGiven d' = (f.isGiven d || f.isCalled key) ∧
      (f.isCalled key = true → f.isGiven d = false ∧
        f.read depth d (after ++ (value ++ rest)) = .ok (d', rest)) := by
  unfold readMember at hread
  split at hread
  next hfind =>
    rw [readColon_append hbefore] at hread
    have hread : ignore key d (after ++ (value ++ rest)) = .ok (d', cs) := hread
    obtain ⟨cs', hskip, hread⟩ := of_bind_eq_ok hread
    rw [skipValue_text hvalue hafter hrest] at hskip
    cases hskip
    cases hread
    refine ⟨rfl, fun f hf => ?_⟩
    have hcalled : f.isCalled key = false := by simpa using List.find?_eq_none.mp hfind f hf
    refine ⟨by rw [hcalled, Bool.or_false], fun hcalled' => ?_⟩
    rw [hcalled] at hcalled'
    cases hcalled'
  next f hfind =>
    have hf := List.mem_of_find?_eq_some hfind
    have hcalled := List.find?_some hfind
    split at hread
    next => cases hread
    next hfresh =>
      rw [readColon_append hbefore] at hread
      have hread : f.read depth d (after ++ (value ++ rest)) = .ok (d', cs) := hread
      obtain rfl := hfields.takes f hf depth d value hvalue after rest d' cs hafter hrest hread
      refine ⟨rfl, fun f' hf' => ⟨hfields.given_of_isCalled hf hcalled hread hf', fun hcalled' => ?_⟩⟩
      obtain rfl := hfields.eq_of_isCalled hf hf' hcalled hcalled'
      exact ⟨Bool.eq_false_iff.mpr hfresh, hread⟩

end Regular

/-- How a field occurs among members that lead from one draft to another: only if it was not given before,
and it is given then. -/
structure Occurs (depth : Nat) (d : δ) (ms : List Member) (d' : δ) (f : RecordField δ) : Prop where
  count : (f.isGiven d).toNat + ms.countP (f.isCalled ·.key) = (f.isGiven d').toNat
  accepts : ∀ m ∈ ms, f.isCalled m.key = true → ∃ d, Accepts (f.read depth d) m.value

theorem Occurs.cons {f : RecordField δ} {m : Member} {ms : List Member} {d d₁ d' : δ}
    {after rest : List Char} (hafter : Blank after) (hrest : Follows rest)
    (hgiven : f.isGiven d₁ = (f.isGiven d || f.isCalled m.key))
    (hread : f.isCalled m.key = true → f.isGiven d = false ∧
      f.read depth d (after ++ (m.value ++ rest)) = .ok (d₁, rest))
    (hms : f.Occurs depth d₁ ms d') : f.Occurs depth d (m :: ms) d' := by
  have hcount := hms.count
  cases hcalled : f.isCalled m.key with
  | false =>
    rw [hgiven, hcalled, Bool.or_false] at hcount
    refine ⟨by rwa [List.countP_cons_of_neg (by simp [hcalled])], List.forall_mem_cons.mpr ⟨?_, hms.accepts⟩⟩
    intro hcalled'
    rw [hcalled] at hcalled'
    cases hcalled'
  | true =>
    obtain ⟨hfresh, hread⟩ := hread hcalled
    rw [hgiven, hcalled, Bool.or_true, Bool.toNat_true] at hcount
    refine ⟨?_, List.forall_mem_cons.mpr ⟨fun _ => ⟨d, after, rest, d₁, hafter, hrest, hread⟩, hms.accepts⟩⟩
    rw [hfresh, Bool.toNat_false, List.countP_cons_of_pos (by simp [hcalled]), ← hcount]
    omega

end RecordField

open RecordField (Regular Occurs)

/-- Where all members of an object are read, each is read to the end of its value. -/
theorem ObjectTail.of_readMembers {fields : List (RecordField δ)} (hfields : Regular fields)
    {ms : List Member} {tail : List Char} (h : ObjectTail first ms tail)
    (hkeys : ∀ m ∈ ms, StringBody m.body) (hvalues : ∀ m ∈ ms, ValueText m.value) {depth n : Nat}
    (hn : ms.length < n) {d d' : δ} {rest cs : List Char}
    (hread : readMembers (RecordField.readMember fields RecordField.ignore depth) n first d
      (tail ++ rest) = .ok (d', cs)) :
    cs = '}' :: rest ∧
      ((∀ m ∈ ms, Spells m.body m.key.toList) → ∀ f ∈ fields, f.Occurs depth d ms d') := by
  obtain ⟨n, rfl⟩ : ∃ k, n = k + 1 := ⟨n - 1, by omega⟩
  induction h generalizing n d with
  | close hblanks =>
    rw [readMembers, List.append_assoc] at hread
    obtain ⟨⟨key?, cs₁⟩, hnext, hread⟩ := of_bind_eq_ok hread
    rw [List.singleton_append, nextKey_close hblanks] at hnext
    cases hnext
    cases hread
    exact ⟨rfl, fun _ f hf => ⟨rfl, fun m hm => absurd hm List.not_mem_nil⟩⟩
  | @member first lead before after tail m ms hlead hbefore hafter htail ih =>
    have hrest := htail.follows rest
    rw [readMembers] at hread
    simp only [List.append_assoc, List.cons_append] at hread
    obtain ⟨⟨key?, cs₁⟩, hnext, hread⟩ := of_bind_eq_ok hread
    rw [nextKey_lead hlead] at hnext
    obtain ⟨⟨key, cs₂⟩, hkey, hnext⟩ := of_bind_eq_ok hnext
    cases hnext
    obtain rfl := rest_of_readString (hkeys m List.mem_cons_self) hkey
    obtain ⟨⟨d₁, cs₃⟩, hmember, hread⟩ := of_bind_eq_ok hread
    obtain ⟨rfl, hm⟩ := hfields.of_readMember (hvalues m List.mem_cons_self) hbefore hafter hrest hmember
    rw [List.length_cons] at hn
    obtain ⟨n, rfl⟩ : ∃ k, n = k + 1 := ⟨n - 1, by omega⟩
    obtain ⟨hcs, hoccurs⟩ := ih (fun m hm => hkeys m (List.mem_cons_of_mem _ hm))
      (fun m hm => hvalues m (List.mem_cons_of_mem _ hm)) n (by omega) hread
    refine ⟨hcs, fun hspells f hf => ?_⟩
    have hcalled := readString_spells (hspells m List.mem_cons_self)
      (before ++ ':' :: (after ++ (m.value ++ (tail ++ rest))))
    obtain rfl : key = m.key := (Prod.mk.inj (Except.ok.inj (hkey.symm.trans hcalled))).1
    obtain ⟨hgiven, hread⟩ := hm f hf
    exact Occurs.cons hafter hrest hgiven hread
      (hoccurs (fun m hm => hspells m (List.mem_cons_of_mem _ hm)) f hf)

/-! ## Members that are read -/

theorem RecordField.Regular.readMember_eq {fields : List (RecordField δ)} (hfields : Regular fields)
    {P : δ → Prop} {depth : Nat} {m : Member}
    (hread : ∀ f ∈ fields, f.isCalled m.key = true → ∀ d, P d →
      ∃ d', P d' ∧ Gives (f.read depth d) m.value d') (hvalue : ValueText m.value)
    {before after rest : List Char} (hbefore : Blank before) (hafter : Blank after)
    (hrest : Follows rest) {d : δ} (hd : P d)
    (hfresh : ∀ f ∈ fields, f.isCalled m.key = true → f.isGiven d = false) :
    ∃ d', P d' ∧ (∀ f ∈ fields, f.isGiven d' = (f.isGiven d || f.isCalled m.key)) ∧
      RecordField.readMember fields RecordField.ignore depth m.key d
        (before ++ ':' :: (after ++ (m.value ++ rest))) = .ok (d', rest) := by
  cases hfind : fields.find? (·.isCalled m.key) with
  | none =>
    refine ⟨d, hd, fun f hf => ?_, ?_⟩
    · have hcalled : f.isCalled m.key = false := by simpa using List.find?_eq_none.mp hfind f hf
      rw [hcalled, Bool.or_false]
    · rw [RecordField.readMember, hfind]
      dsimp only
      rw [readColon_append hbefore]
      show RecordField.ignore m.key d _ = _
      rw [RecordField.ignore, skipValue_text hvalue hafter hrest]
      rfl
  | some f =>
    have hf := List.mem_of_find?_eq_some hfind
    have hcalled := List.find?_some hfind
    obtain ⟨d', hd', hgives⟩ := hread f hf hcalled d hd
    have hvalue := hgives after rest hafter hrest
    refine ⟨d', hd', fun f' hf' => hfields.given_of_isCalled hf hcalled hvalue hf', ?_⟩
    rw [RecordField.readMember, hfind]
    dsimp only
    rw [hfresh f hf hcalled, if_neg Bool.false_ne_true, readColon_append hbefore]
    exact hvalue

/-- Members of which each field is called by at most one, and can be read from it, are read. -/
theorem ObjectTail.readMembers_eq {fields : List (RecordField δ)} (hfields : Regular fields)
    {P : δ → Prop} {depth : Nat} {ms : List Member} {tail : List Char} (h : ObjectTail first ms tail)
    (hkeys : ∀ m ∈ ms, Spells m.body m.key.toList) (hvalues : ∀ m ∈ ms, ValueText m.value)
    (hread : ∀ m ∈ ms, ∀ f ∈ fields, f.isCalled m.key = true → ∀ d, P d →
      ∃ d', P d' ∧ Gives (f.read depth d) m.value d') {d : δ} (hd : P d)
    (honce : ∀ f ∈ fields, (f.isGiven d).toNat + ms.countP (f.isCalled ·.key) ≤ 1) {n : Nat}
    (hn : ms.length < n) (rest : List Char) :
    ∃ d', P d' ∧
      (∀ f ∈ fields, (f.isGiven d).toNat + ms.countP (f.isCalled ·.key) = (f.isGiven d').toNat) ∧
      readMembers (RecordField.readMember fields RecordField.ignore depth) n first d (tail ++ rest) =
        .ok (d', '}' :: rest) := by
  obtain ⟨n, rfl⟩ : ∃ k, n = k + 1 := ⟨n - 1, by omega⟩
  induction h generalizing n d with
  | close hblanks =>
    refine ⟨d, hd, fun f _ => rfl, ?_⟩
    rw [List.append_assoc]
    exact readMembers_end (nextKey_close hblanks _ rest) n d
  | @member first lead before after tail m ms hlead hbefore hafter htail ih =>
    have hfresh : ∀ f ∈ fields, f.isCalled m.key = true → f.isGiven d = false := by
      intro f hf hcalled
      have hcount := honce f hf
      rw [List.countP_cons_of_pos (by simp [hcalled])] at hcount
      cases hgiven : f.isGiven d with
      | false => rfl
      | true =>
        rw [hgiven, Bool.toNat_true] at hcount
        omega
    obtain ⟨d₁, hd₁, hgiven, hmember⟩ := hfields.readMember_eq (hread m List.mem_cons_self)
      (hvalues m List.mem_cons_self) hbefore hafter (htail.follows rest) hd hfresh
    have hstep : ∀ f ∈ fields, (f.isGiven d).toNat + (m :: ms).countP (f.isCalled ·.key) =
        (f.isGiven d₁).toNat + ms.countP (f.isCalled ·.key) := by
      intro f hf
      rw [hgiven f hf, List.countP_cons]
      cases hcalled : f.isCalled m.key with
      | false => simp
      | true =>
        rw [hfresh f hf hcalled]
        simp only [Bool.toNat_false, Bool.false_or, Bool.toNat_true, if_true]
        omega
    rw [List.length_cons] at hn
    obtain ⟨n, rfl⟩ : ∃ k, n = k + 1 := ⟨n - 1, by omega⟩
    obtain ⟨d', hd', hcount, hmembers⟩ := ih (fun m hm => hkeys m (List.mem_cons_of_mem _ hm))
      (fun m hm => hvalues m (List.mem_cons_of_mem _ hm))
      (fun m hm => hread m (List.mem_cons_of_mem _ hm)) hd₁
      (fun f hf => (hstep f hf).symm.trans_le (honce f hf)) n (by omega)
    refine ⟨d', hd', fun f hf => (hstep f hf).trans (hcount f hf), ?_⟩
    have hkey : nextKey first (lead ++ '"' :: (m.body ++ '"' ::
        (before ++ ':' :: (after ++ (m.value ++ (tail ++ rest)))))) =
        .ok (some m.key, before ++ ':' :: (after ++ (m.value ++ (tail ++ rest)))) := by
      rw [nextKey_lead hlead, readString_spells (hkeys m List.mem_cons_self)]
      rfl
    simp only [List.append_assoc, List.cons_append]
    exact readMembers_member hkey hmember hmembers

/-! ## Objects by their fields -/

/-- A field of an object: one member under one of its names, whose value is as it should be, or none where
the field may be left out. -/
inductive HasField (names : List String) (IsValue : List Char → Prop) (MayMiss : Prop)
    (ms : List Member) : Prop
  | once (hcount : ms.countP (·.key ∈ names) = 1)
      (hvalue : ∀ m ∈ ms, m.key ∈ names → IsValue m.value)
  | leftOut (hcount : ms.countP (·.key ∈ names) = 0) (h : MayMiss)

/-- An object in which a field, known by its names, is doubled, or one that is needed is missing. -/
inductive FaultyObject (known needed : List (List String)) (text : List Char) : Prop
  | doubled {ms : List Member} {names : List String} (h : ObjectText ms text) (hnames : names ∈ known)
      (hcount : 2 ≤ ms.countP (·.key ∈ names))
  | missing {ms : List Member} {names : List String} (h : ObjectText ms text) (hnames : names ∈ needed)
      (hcount : ms.countP (·.key ∈ names) = 0)

theorem FaultyObject.valueText {known needed : List (List String)} {text : List Char}
    (h : FaultyObject known needed text) : ValueText text := by
  cases h with
  | doubled h => exact h.valueText
  | missing h => exact h.valueText

namespace HasField

variable {names : List String} {IsValue : List Char → Prop} {MayMiss : Prop} {ms : List Member}

theorem count_le_one (h : HasField names IsValue MayMiss ms) : ms.countP (·.key ∈ names) ≤ 1 := by
  cases h with
  | once hcount => exact hcount.le
  | leftOut hcount => exact hcount.trans_le (Nat.zero_le 1)

theorem count_ne_zero (h : HasField names IsValue False ms) : ms.countP (·.key ∈ names) ≠ 0 := by
  cases h with
  | once hcount => exact hcount ▸ Nat.one_ne_zero
  | leftOut _ h => exact h.elim

theorem isValue (h : HasField names IsValue MayMiss ms) {m : Member} (hm : m ∈ ms)
    (hkey : m.key ∈ names) : IsValue m.value := by
  cases h with
  | once _ hvalue => exact hvalue m hm hkey
  | leftOut hcount => exact absurd (decide_eq_true hkey) (List.countP_eq_zero.mp hcount m hm)

/-- What a draft says of a field, or else the usual value, is the value of the field. -/
theorem getD_eq {y usual : τ} {given : Option τ} (h : HasField names IsValue MayMiss ms)
    (hmiss : MayMiss → y = usual) (hcount : ms.countP (·.key ∈ names) = given.isSome.toNat)
    (hgiven : ∀ x ∈ given, x = y) : given.getD usual = y := by
  cases given with
  | some x => exact hgiven x rfl
  | none =>
    cases h with
    | once hone => exact absurd (hone.symm.trans hcount) Nat.one_ne_zero
    | leftOut _ h => exact (hmiss h).symm

end HasField

/-! ## Records written as arrays -/

theorem closeArray_of_arrayTail {items : List (List Char)} {tail rest cs : List Char}
    (h : ArrayTail first items tail) (hitems : ∀ item ∈ items, ValueText item)
    (hclose : closeArray (tail ++ rest) = .ok cs) : cs = rest := by
  cases h with
  | close hblanks =>
    rw [List.append_assoc, List.singleton_append, closeArray_close hblanks] at hclose
    exact (Except.ok.inj hclose).symm
  | @item _ lead item tail items hlead htail =>
    obtain ⟨c, word, rfl, hopens⟩ := (hitems _ List.mem_cons_self).opens
    rw [List.append_assoc, List.append_assoc, List.cons_append] at hclose
    cases hlead with
    | first hblanks =>
      rw [closeArray, skipSpace_append hblanks, skipSpace_cons hopens.not_space] at hclose
      split at hclose
      next heq => cases heq
      next heq => exact absurd (List.cons.inj heq).1 hopens.not_bracket
      next heq => exact absurd (List.cons.inj heq).1 hopens.not_comma
      next => cases hclose
    | next hbefore hafter =>
      rw [List.append_assoc, closeArray, skipSpace_append hbefore, List.cons_append,
        skipSpace_cons rfl] at hclose
      change (if (skipSpace _).head? = some ']' then failNext .trailingComma _
        else failNext .trailingCharacters _) = .ok cs at hclose
      split_ifs at hclose
      · cases hclose
      · cases hclose

/-- Behind the fields that were read from an array some items of it are left. -/
theorem ArrayTail.of_readPositions {fields : List (RecordField δ)}
    (htakes : ∀ f ∈ fields, ∀ depth d text, ValueText text → Takes (f.read depth d) text)
    {items : List (List Char)} {tail : List Char} (h : ArrayTail first items tail)
    (hitems : ∀ item ∈ items, ValueText item) {expected : String} {depth place : Nat} {d d' : δ}
    {rest cs : List Char}
    (hread : RecordField.readPositions expected depth place first fields d (tail ++ rest) =
      .ok (d', cs)) :
    ∃ first' items' tail', ArrayTail first' items' tail' ∧ (∀ item ∈ items', ValueText item) ∧
      cs = tail' ++ rest := by
  induction fields generalizing first items tail place d with
  | nil =>
    cases hread
    exact ⟨first, items, tail, h, hitems, rfl⟩
  | cons f fields ih =>
    have htakes' := fun f' hf' => htakes f' (List.mem_cons_of_mem f hf')
    rw [RecordField.readPositions] at hread
    obtain ⟨⟨more, cs₁⟩, hnext, hread⟩ := of_bind_eq_ok hread
    cases h with
    | close hblanks =>
      rw [List.append_assoc, List.singleton_append, nextItem_close hblanks] at hnext
      cases hnext
      dsimp only at hread
      rw [if_neg Bool.false_ne_true] at hread
      split_ifs at hread
      exact ih htakes' (.close blank_nil) hitems hread
    | @item _ lead item tail items hlead htail =>
      obtain ⟨c, word, rfl, hopens⟩ := (hitems _ List.mem_cons_self).opens
      rw [List.append_assoc, List.append_assoc, List.cons_append, nextItem_lead hlead hopens] at hnext
      cases hnext
      obtain ⟨⟨d₁, cs₂⟩, hitem, hread⟩ := of_bind_eq_ok hread
      obtain rfl := htakes f List.mem_cons_self depth d _ (hitems _ List.mem_cons_self) []
        (tail ++ rest) d₁ cs₂ blank_nil (htail.follows rest) hitem
      exact ih htakes' htail (fun item hmem => hitems item (List.mem_cons_of_mem _ hmem)) hread

/-! ## Records -/

namespace Decoder

variable {title : String} {fields : List (RecordField δ)} {start : δ} {finish : δ → α} {depth : Nat}

theorem record_brace {blanks : List Char} (hblanks : Blank blanks) (cs : List Char) :
    record title fields start finish depth (blanks ++ '{' :: cs) =
      openRecord title fields (fun _ => RecordField.ignore) start finish depth ('{' :: cs) := by
  rw [record, skipSpace_append hblanks, skipSpace_cons rfl]
  rfl

/-- A record that is read from an object is read to its closing bracket. Each of its fields occurs at most
once then, and those that are required do occur. -/
theorem occurs_of_record (hfields : Regular fields) {ms : List Member} {tail : List Char}
    (h : ObjectTail true ms tail) (hkeys : ∀ m ∈ ms, StringBody m.body)
    (hvalues : ∀ m ∈ ms, ValueText m.value) {blanks rest cs : List Char} (hblanks : Blank blanks) {x : α}
    (hread : record title fields start finish depth (blanks ++ ('{' :: tail ++ rest)) = .ok (x, cs)) :
    cs = rest ∧ ((∀ m ∈ ms, Spells m.body m.key.toList) → ∃ d, ∀ f ∈ fields,
      f.Occurs (depth - 1) start ms d ∧ (f.required = true → f.isGiven d = true)) := by
  rw [List.cons_append, record_brace hblanks] at hread
  obtain ⟨-, inside, d, hopen, hobject, rfl⟩ := openRecord_eq_ok.mp hread
  obtain rfl : tail ++ rest = inside := (List.cons.inj hopen).2
  obtain ⟨hgiven, close, hmembers, hclose⟩ := RecordField.readObject_eq_ok.mp hobject
  have hn : ms.length < (tail ++ rest).length + 1 := by
    have hless := h.length_lt
    rw [List.length_append]
    omega
  obtain ⟨rfl, hoccurs⟩ := h.of_readMembers hfields hkeys hvalues hn hmembers
  rw [← List.nil_append ('}' :: rest), closeObject_close blank_nil] at hclose
  exact ⟨(Except.ok.inj hclose).symm, fun hspells => ⟨d, fun f hf => ⟨hoccurs hspells f hf, hgiven f hf⟩⟩⟩

theorem takes_record (hfields : Regular fields) {text : List Char} (h : ValueText text) :
    Takes (record title fields start finish depth) text := by
  intro blanks rest x cs hblanks _ hread
  obtain ⟨c, tail, rfl, hopens⟩ := h.opens
  have hread' := hread
  rw [record, skipSpace_append hblanks, List.cons_append, skipSpace_cons hopens.not_space] at hread
  split at hread
  next heq =>
    obtain ⟨rfl, rfl⟩ := List.cons.inj heq
    obtain ⟨items, htail, hitems⟩ := h.of_bracket
    obtain ⟨depth', -, hread⟩ := of_bind_eq_ok hread
    obtain ⟨⟨d, cs'⟩, harray, hread⟩ := of_bind_eq_ok hread
    cases hread
    obtain ⟨cs₁, hpositions, hclose⟩ := inArray_eq_ok.mp harray
    obtain ⟨first', items', tail', htail', hitems', rfl⟩ :=
      htail.of_readPositions hfields.takes hitems hpositions
    exact closeArray_of_arrayTail htail' hitems' hclose
  next =>
    obtain ⟨-, inside, d, hopen, -⟩ := openRecord_eq_ok.mp hread
    rw [skipSpace_cons hopens.not_space] at hopen
    obtain ⟨rfl, -⟩ := List.cons.inj hopen
    obtain ⟨ms, htail, hkeys, hvalues⟩ := h.of_brace
    exact (occurs_of_record hfields htail hkeys hvalues hblanks hread').1

/-- Where an object is read as a record, each field occurs in it at most once, under any of its names, and once
if it is required, and is read there. -/
theorem occurs_of_accepts (hfields : Regular fields) {ms : List Member} {text : List Char}
    (h : ObjectText ms text) (hempty : ∀ f ∈ fields, f.isGiven start = false)
    (haccepts : Accepts (record title fields start finish depth) text) {f : RecordField δ}
    (hf : f ∈ fields) :
    ms.countP (f.isCalled ·.key) ≤ 1 ∧
      (f.required = true → ms.countP (f.isCalled ·.key) = 1) ∧
      ∀ m ∈ ms, f.isCalled m.key = true → ∃ d, Accepts (f.read (depth - 1) d) m.value := by
  obtain ⟨tail, rfl, htail⟩ := h.brackets
  obtain ⟨blanks, rest, x, hblanks, -, hread⟩ := haccepts
  obtain ⟨d, hoccurs⟩ := (occurs_of_record hfields htail (fun m hm => (h.keys m hm).stringBody) h.values
    hblanks hread).2 h.keys
  obtain ⟨hoccurs, hrequired⟩ := hoccurs f hf
  have hcount := hoccurs.count
  rw [hempty f hf, Bool.toNat_false, Nat.zero_add] at hcount
  refine ⟨hcount ▸ Bool.toNat_le (f.isGiven d), fun hneeds => ?_, hoccurs.accepts⟩
  rw [hcount, hrequired hneeds, Bool.toNat_true]

/-- An object in which a field is doubled or missing is never read as a record. -/
theorem not_accepts_of_faulty (hfields : Regular fields)
    (hempty : ∀ f ∈ fields, f.isGiven start = false) {text : List Char}
    (h : FaultyObject (fields.map (·.names)) ((fields.filter (·.required)).map (·.names)) text) :
    ¬ Accepts (record title fields start finish depth) text := by
  intro haccepts
  cases h with
  | @doubled ms names htext hnames hcount =>
    obtain ⟨f, hf, rfl⟩ := List.mem_map.mp hnames
    have honce := (occurs_of_accepts hfields htext hempty haccepts hf).1
    simp only [RecordField.isCalled_eq_decide] at honce
    omega
  | @missing ms names htext hnames hcount =>
    obtain ⟨f, hf, rfl⟩ := List.mem_map.mp hnames
    obtain ⟨hf, hrequired⟩ := List.mem_filter.mp hf
    have hone := (occurs_of_accepts hfields htext hempty haccepts hf).2.1 hrequired
    simp only [RecordField.isCalled_eq_decide] at hone
    omega

/-- An object in which each field occurs once, or not at all if it is not required, is read as a record. -/
theorem gives_record (hfields : Regular fields) {P : δ → Prop} {ms : List Member} {text : List Char}
    (h : ObjectText ms text) (hdepth : 0 < depth) (hstart : P start)
    (hempty : ∀ f ∈ fields, f.isGiven start = false)
    (honce : ∀ f ∈ fields, ms.countP (f.isCalled ·.key) ≤ 1)
    (hrequired : ∀ f ∈ fields, f.required = true → ms.countP (f.isCalled ·.key) ≠ 0)
    (hread : ∀ m ∈ ms, ∀ f ∈ fields, f.isCalled m.key = true → ∀ d, P d →
      ∃ d', P d' ∧ Gives (f.read depth d) m.value d') {x : α}
    (hfinish : ∀ d, P d →
      (∀ f ∈ fields, ms.countP (f.isCalled ·.key) = (f.isGiven d).toNat) → finish d = x) :
    Gives (record title fields start finish (depth + 1)) text x := by
  obtain ⟨tail, rfl, htail⟩ := h.brackets
  intro blanks rest hblanks _
  have hn : ms.length < (tail ++ rest).length + 1 := by
    have hless := htail.length_lt
    rw [List.length_append]
    omega
  have hcount : ∀ f ∈ fields, (f.isGiven start).toNat + ms.countP (f.isCalled ·.key) =
      ms.countP (f.isCalled ·.key) := by
    intro f hf
    rw [hempty f hf, Bool.toNat_false, Nat.zero_add]
  obtain ⟨d, hd, hgiven, hmembers⟩ := htail.readMembers_eq hfields h.keys h.values hread hstart
    (fun f hf => (hcount f hf).trans_le (honce f hf)) hn rest
  have hgiven' := fun f hf => (hcount f hf).symm.trans (hgiven f hf)
  have hneeded : ∀ f ∈ fields, f.required = true → f.isGiven d = true := by
    intro f hf hneeds
    have hoccurs := hrequired f hf hneeds
    rw [hgiven' f hf] at hoccurs
    cases hset : f.isGiven d with
    | false => exact absurd (by rw [hset]; rfl) hoccurs
    | true => rfl
  have hobject := RecordField.readObject_eq_ok.mpr ⟨hneeded, _, hmembers, rfl⟩
  rw [List.cons_append, record_brace hblanks]
  exact openRecord_eq_ok.mpr
    ⟨Nat.succ_lt_succ hdepth, _, d, skipSpace_cons rfl _, hobject, (hfinish d hd hgiven').symm⟩

end Decoder

/-! ## Fields that are kept as options -/

namespace RecordField

variable {name : String} {formerNames : List String} {required : Bool} {get : δ → Option τ}
  {put : δ → Option τ → δ} {decoder : Decoder τ} {depth : Nat} {d : δ} {text : List Char}

theorem takes_stored (h : Takes (decoder depth) text) :
    Takes ((stored name formerNames required get put decoder).read depth d) text := by
  intro blanks rest d' cs hblanks hrest hread
  obtain ⟨⟨x, cs'⟩, hx, hread⟩ := of_bind_eq_ok hread
  cases hread
  exact h blanks rest x cs hblanks hrest hx

theorem gives_stored {x : τ} (h : Gives (decoder depth) text x) :
    Gives ((stored name formerNames required get put decoder).read depth d) text (put d (some x)) := by
  intro blanks rest hblanks hrest
  show (do
    let read ← decoder depth (blanks ++ (text ++ rest))
    return (put d (some read.1), read.2) : Except Failure (δ × List Char)) = _
  rw [h blanks rest hblanks hrest]
  rfl

theorem of_read_stored {cs rest : List Char} {d' : δ}
    (h : (stored name formerNames required get put decoder).read depth d cs = .ok (d', rest)) :
    ∃ x, d' = put d (some x) := by
  obtain ⟨⟨x, cs'⟩, -, h⟩ := of_bind_eq_ok h
  cases h
  exact ⟨x, rfl⟩

theorem accepts_of_stored
    (h : Accepts ((stored name formerNames required get put decoder).read depth d) text) :
    Accepts (decoder depth) text := by
  obtain ⟨blanks, rest, d', hblanks, hrest, hread⟩ := h
  obtain ⟨⟨x, cs'⟩, hx, hread⟩ := of_bind_eq_ok hread
  cases hread
  exact ⟨blanks, rest, x, hblanks, hrest, hx⟩

end RecordField

end AnchorOutline.Json
