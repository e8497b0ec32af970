import AnchorOutline.Proofs.Json.Passing
import AnchorOutline.Proofs.Json.Records

/-!
# What decoders take of a text

A decoder that gives a value for a text of JSON has read this text and no more, whatever the text is of. And
where the text spells a string or has items that can be read, it does give the value.

* `Json.Takes`, `Json.Gives`, `Json.Accepts` : what a reader does with a text;
* `Json.readString_spells`, `Json.rest_of_readString` : strings;
* `Json.Decoder.takes_stringNamed`, `Json.Decoder.takes_bool`, `Json.Decoder.takes_list` : decoders;
* `Json.Decoder.gives_list`, `Json.Decoder.accepts_of_list` : the items of a list that is read.
-/

namespace AnchorOutline.Json

variable {α : Type}

/-! ## Readers and texts -/

/-- A reader that gives a value takes just a text, space before it aside. -/
def Takes (read : Reader α) (text : List Char) : Prop :=
  ∀ blanks rest x cs, Blank blanks → Follows rest → read (blanks ++ (text ++ rest)) = .ok (x, cs) →
    cs = rest

/-- A reader takes a text and gives a value for it. -/
def Gives (read : Reader α) (text : List Char) (x : α) : Prop :=
  ∀ blanks rest, Blank blanks → Follows rest → read (blanks ++ (text ++ rest)) = .ok (x, rest)

/-- A reader gives some value for a text, with space before it and something behind it. -/
def Accepts (read : Reader α) (text : List Char) : Prop :=
  ∃ blanks rest x, Blank blanks ∧ Follows rest ∧ read (blanks ++ (text ++ rest)) = .ok (x, rest)

/-! ## Strings -/

theorem readStringBody_quad {a b c d : Char} {n : Nat} (h : hexQuad? a b c d = some n)
    (hlow : isLowSurrogate n = false) (hhigh : isHighSurrogate n = false) (cs : List Char) :
    readStringBody ('\\' :: 'u' :: a :: b :: c :: d :: cs) =
      (readStringBody cs).map fun (body, rest) => (Char.ofNat n :: body, rest) := by
  rw [readStringBody, h]
  simp only [hlow, hhigh]
  cases readStringBody cs <;> rfl

theorem readStringBody_pair {a b c d e f g h : Char} {m n : Nat} (hfirst : hexQuad? a b c d = some m)
    (hsecond : hexQuad? e f g h = some n) (hhigh : isHighSurrogate m = true)
    (hlow : isLowSurrogate n = true) (cs : List Char) :
    readStringBody ('\\' :: 'u' :: a :: b :: c :: d :: '\\' :: 'u' :: e :: f :: g :: h :: cs) =
      (readStringBody cs).map fun (body, rest) =>
        (Char.ofNat ((m - 0xD800) * 0x400 + (n - 0xDC00) + 0x10000) :: body, rest) := by
  have hnot : isLowSurrogate m = false := by
    simp only [isHighSurrogate, isLowSurrogate, Bool.and_eq_true, decide_eq_true_eq,
      Bool.and_eq_false_iff, decide_eq_false_iff_not] at hhigh ⊢
    omega
  rw [readStringBody, hfirst]
  simp only [hnot, hhigh, hsecond, hlow]
  cases readStringBody cs <;> rfl

theorem readStringBody_spells {body xs : List Char} (h : Spells body xs) (rest : List Char) :
    readStringBody (body ++ '"' :: rest) = .ok (xs, rest) := by
  induction h with
  | nil => rfl
  | plain hcontrol hquote hslash _ ih =>
    rw [List.cons_append, readStringBody_cons hcontrol hquote hslash, ih]
    rfl
  | letter h _ ih =>
    rw [List.cons_append, List.cons_append, readStringBody_letter h, ih]
    rfl
  | number h hlow hhigh _ ih =>
    simp only [List.cons_append]
    rw [readStringBody_quad h hlow hhigh, ih]
    rfl
  | pair hfirst hsecond hhigh hlow _ ih =>
    simp only [List.cons_append]
    rw [readStringBody_pair hfirst hsecond hhigh hlow, ih]
    rfl

theorem readString_spells {body : List Char} {s : String} (h : Spells body s.toList)
    (rest : List Char) : readString (body ++ '"' :: rest) = .ok (s, rest) := by
  rw [readString, readStringBody_spells h]
  show Except.ok (String.ofList s.toList, rest) = _
  rw [String.ofList_toList]

theorem badQuad_ne_ok {cs : List Char} {x : α} : badQuad cs ≠ .ok x := by
  unfold badQuad
  split_ifs <;> exact nofun

theorem badSecondSurrogate_ne_ok {cs : List Char} {x : α} : badSecondSurrogate cs ≠ .ok x := by
  unfold badSecondSurrogate
  split
  next =>
    split_ifs
    · exact nofun
    · exact badQuad_ne_ok
  next => exact badQuad_ne_ok
  next => exact nofun
  next => exact nofun
  next => exact nofun
  next => exact nofun

/-- Behind an escape by number the inside of a string goes on. -/
theorem StringBody.of_quad {body rest rest' : List Char} {a b c d : Char} (h : StringBody body)
    (heq : body ++ '"' :: rest = '\\' :: 'u' :: a :: b :: c :: d :: rest') :
    ∃ body', StringBody body' ∧ body'.length < body.length ∧ rest' = body' ++ '"' :: rest := by
  cases h with
  | nil => cases heq
  | plain hcontrol hquote hslash h => exact absurd (List.cons.inj heq).1 hslash
  | letter hletter h =>
    obtain ⟨rfl, -⟩ := List.cons.inj (List.cons.inj heq).2
    cases hletter
  | number hnumber h =>
    simp only [List.cons_append, List.cons.injEq, true_and] at heq
    obtain ⟨rfl, rfl, rfl, rfl, rfl⟩ := heq
    exact ⟨_, h, by simp only [List.length_cons]; omega, rfl⟩

/-- Whatever its escapes stand for, a string that is read is read to its closing quote. -/
theorem rest_of_readStringBody {body rest xs cs : List Char} (h : StringBody body)
    (hread : readStringBody (body ++ '"' :: rest) = .ok (xs, cs)) : cs = rest := by
  -- A pair of escapes is read at once but takes two constructors, so the induction is on the length.
  induction hlength : body.length using Nat.strongRecOn generalizing body xs with
  | ind k ih =>
    subst hlength
    cases h with
    | nil =>
      cases hread
      rfl
    | @plain c body hcontrol hquote hslash h =>
      rw [List.cons_append, readStringBody_cons hcontrol hquote hslash] at hread
      obtain ⟨⟨ys, cs'⟩, hys, heq⟩ := of_map_eq_ok hread
      cases heq
      exact ih _ (by simp) h hys rfl
    | @letter c x body hletter h =>
      rw [List.cons_append, List.cons_append, readStringBody_letter hletter] at hread
      obtain ⟨⟨ys, cs'⟩, hys, heq⟩ := of_map_eq_ok hread
      cases heq
      exact ih _ (by simp) h hys rfl
    | @number a b c d n body hnumber h =>
      simp only [List.cons_append] at hread
      cases hlow : isLowSurrogate n with
      | true =>
        rw [readStringBody, hnumber] at hread
        simp [hlow, failAt] at hread
      | false =>
        cases hhigh : isHighSurrogate n with
        | false =>
          rw [readStringBody_quad hnumber hlow hhigh] at hread
          obtain ⟨⟨ys, cs'⟩, hys, heq⟩ := of_map_eq_ok hread
          cases heq
          exact ih _ (by simp; omega) h hys rfl
        | true =>
          rw [readStringBody, hnumber] at hread
          simp only [hlow, hhigh, Bool.false_eq_true, if_false, if_true] at hread
          split at hread
          next e f g i rest' heq =>
            split at hread
            next => exact absurd hread badSecondSurrogate_ne_ok
            next m hquad =>
              split at hread
              next =>
                obtain ⟨⟨ys, cs'⟩, hys, hread⟩ := of_bind_eq_ok hread
                cases hread
                obtain ⟨body', h', hless, rfl⟩ := h.of_quad heq
                exact ih _ (by simp only [List.length_cons]; omega) h' hys rfl
              next => exact absurd hread badSecondSurrogate_ne_ok
          next => exact absurd hread badSecondSurrogate_ne_ok

theorem rest_of_readString {body rest cs : List Char} {s : String} (h : StringBody body)
    (hread : readString (body ++ '"' :: rest) = .ok (s, cs)) : cs = rest := by
  obtain ⟨⟨xs, cs'⟩, hxs, hread⟩ := of_bind_eq_ok hread
  cases hread
  exact rest_of_readStringBody h hxs

/-! ## What a value begins with -/

theorem NumberText.head {c : Char} {cs : List Char} (h : NumberText (c :: cs)) :
    c = '-' ∨ c.isDigit = true := by
  generalize htext : c :: cs = text at h
  cases h with
  | positive h =>
    cases h with
    | intro hwhole =>
      obtain ⟨d, digits, rfl, hd, -⟩ := hwhole.exists_digit
      obtain ⟨rfl, -⟩ := List.cons.inj htext
      exact .inr hd
  | negative h =>
    obtain ⟨rfl, -⟩ := List.cons.inj htext
    exact .inl rfl

namespace ValueText

variable {cs : List Char}

theorem of_quote (h : ValueText ('"' :: cs)) : ∃ body, StringBody body ∧ cs = body ++ ['"'] := by
  cases h with
  | string h => exact ⟨_, h, rfl⟩
  | number h => rcases h.head with heq | hdigit <;> contradiction

theorem of_bracket (h : ValueText ('[' :: cs)) :
    ∃ items, ArrayTail true items cs ∧ ∀ item ∈ items, ValueText item := by
  cases h with
  | number h => rcases h.head with heq | hdigit <;> contradiction
  | array h hitems => exact ⟨_, h, hitems⟩

theorem of_brace (h : ValueText ('{' :: cs)) :
    ∃ ms, ObjectTail true ms cs ∧ (∀ m ∈ ms, StringBody m.body) ∧ ∀ m ∈ ms, ValueText m.value := by
  cases h with
  | number h => rcases h.head with heq | hdigit <;> contradiction
  | object h hkeys hvalues => exact ⟨_, h, hkeys, hvalues⟩

theorem of_letter {c : Char} (h : ValueText (c :: cs)) :
    (c = 't' → cs = ['r', 'u', 'e']) ∧ (c = 'f' → cs = ['a', 'l', 's', 'e']) := by
  cases h with
  | isNull => exact ⟨nofun, nofun⟩
  | isTrue => exact ⟨fun _ => rfl, nofun⟩
  | isFalse => exact ⟨nofun, fun _ => rfl⟩
  | string h => exact ⟨nofun, nofun⟩
  | number h =>
    refine ⟨?_, ?_⟩ <;>
      · rintro rfl
        rcases h.head with heq | hdigit <;> contradiction
  | array h => exact ⟨nofun, nofun⟩
  | object h => exact ⟨nofun, nofun⟩

end ValueText

/-! ## Single values -/

def StringText (s : String) (text : List Char) : Prop :=
  ∃ body, Spells body s.toList ∧ text = '"' :: (body ++ ['"'])

theorem StringText.valueText {s : String} {text : List Char} (h : StringText s text) : ValueText text := by
  obtain ⟨body, hbody, rfl⟩ := h
  exact .string hbody.stringBody

def BoolText (b : Bool) (text : List Char) : Prop :=
  text = if b then ['t', 'r', 'u', 'e'] else ['f', 'a', 'l', 's', 'e']

namespace Decoder

theorem gives_string {s : String} {text : List Char} (h : StringText s text) (depth : Nat) :
    Gives (string depth) text s := by
  obtain ⟨body, hbody, rfl⟩ := h
  intro blanks rest hblanks _
  rw [string, stringNamed, skipSpace_append hblanks, List.cons_append, skipSpace_cons rfl,
    List.append_assoc]
  exact readString_spells hbody rest

theorem gives_bool {b : Bool} {text : List Char} (h : BoolText b text) (depth : Nat) :
    Gives (bool depth) text b := by
  intro blanks rest hblanks _
  rw [h, bool, skipSpace_append hblanks]
  cases b with
  | true => rfl
  | false => rfl

theorem takes_stringNamed {text : List Char} (h : ValueText text) (expected : String) (depth : Nat) :
    Takes (stringNamed expected depth) text := by
  intro blanks rest s cs hblanks _ hread
  obtain ⟨c, tail, rfl, hopens⟩ := h.opens
  rw [stringNamed, skipSpace_append hblanks, List.cons_append, skipSpace_cons hopens.not_space] at hread
  split at hread
  next heq =>
    obtain ⟨rfl, rfl⟩ := List.cons.inj heq
    obtain ⟨body, hbody, rfl⟩ := h.of_quote
    rw [List.append_assoc] at hread
    exact rest_of_readString hbody hread
  next => exact absurd hread failExpecting_ne_ok

theorem takes_bool {text : List Char} (h : ValueText text) (depth : Nat) : Takes (bool depth) text := by
  intro blanks rest b cs hblanks _ hread
  obtain ⟨c, tail, rfl, hopens⟩ := h.opens
  rw [bool, skipSpace_append hblanks, List.cons_append, skipSpace_cons hopens.not_space] at hread
  split at hread
  next heq =>
    obtain ⟨rfl, rfl⟩ := List.cons.inj heq
    obtain rfl := h.of_letter.1 rfl
    cases hread
    rfl
  next heq =>
    obtain ⟨rfl, rfl⟩ := List.cons.inj heq
    obtain rfl := h.of_letter.2 rfl
    cases hread
    rfl
  next => exact absurd hread failExpecting_ne_ok

end Decoder

/-! ## Arrays -/

variable {first : Bool} {lead : List Char}

theorem nextItem_lead (h : Lead first lead) {c : Char} (hopens : Opens c) (cs : List Char) :
    nextItem first (lead ++ c :: cs) = .ok (true, c :: cs) := by
  cases h with
  | first h =>
    rw [nextItem, skipSpace_append h, skipSpace_cons hopens.not_space]
    split
    next heq => cases heq
    next heq => exact absurd (List.cons.inj heq).1 hopens.not_bracket
    next heq =>
      cases heq
      rfl
  | next hbefore hafter =>
    rw [nextItem, List.append_assoc, skipSpace_append hbefore, List.cons_append, skipSpace_cons rfl]
    show (if false = true then _ else if ',' = ',' then _ else _) = _
    rw [if_neg (by decide), if_pos rfl, skipSpace_append hafter, skipSpace_cons hopens.not_space]
    split
    next heq => cases heq
    next heq => exact absurd (List.cons.inj heq).1 hopens.not_bracket
    next => rfl

theorem ArrayTail.length_lt {items : List (List Char)} {tail : List Char}
    (h : ArrayTail first items tail) (hitems : ∀ item ∈ items, ValueText item) :
    items.length < tail.length := by
  induction h with
  | close => simp
  | item hlead _ ih =>
    obtain ⟨c, cs, rfl, -⟩ := (hitems _ List.mem_cons_self).opens
    have hless := ih fun item hmem => hitems item (List.mem_cons_of_mem _ hmem)
    simp only [List.length_cons, List.length_append]
    omega

/-- Where all items of an array are read, each is read as it stands there. -/
theorem ArrayTail.of_readItems {read : Reader α} {items : List (List Char)} {tail : List Char}
    (h : ArrayTail first items tail) (hitems : ∀ item ∈ items, ValueText item)
    (htakes : ∀ item ∈ items, Takes read item) {n : Nat} (hn : items.length < n) {xs : List α}
    {rest cs : List Char} (hread : readItems read n first (tail ++ rest) = .ok (xs, cs)) :
    cs = ']' :: rest ∧ ∀ item ∈ items, Accepts read item := by
  obtain ⟨n, rfl⟩ : ∃ k, n = k + 1 := ⟨n - 1, by omega⟩
  induction h generalizing n xs with
  | close hblanks =>
    rw [readItems, List.append_assoc] at hread
    obtain ⟨⟨more, cs₁⟩, hnext, hread⟩ := of_bind_eq_ok hread
    rw [List.singleton_append, nextItem_close hblanks] at hnext
    cases hnext
    cases hread
    exact ⟨rfl, fun item hmem => absurd hmem List.not_mem_nil⟩
  | @item first lead item tail items hlead htail ih =>
    obtain ⟨c, word, rfl, hopens⟩ := (hitems _ List.mem_cons_self).opens
    have hrest := htail.follows rest
    rw [readItems, List.append_assoc, List.append_assoc, List.cons_append] at hread
    obtain ⟨⟨more, cs₁⟩, hnext, hread⟩ := of_bind_eq_ok hread
    rw [nextItem_lead hlead hopens] at hnext
    cases hnext
    obtain ⟨⟨x, cs₂⟩, hx, hread⟩ := of_bind_eq_ok hread
    obtain rfl := htakes _ List.mem_cons_self [] (tail ++ rest) x cs₂ blank_nil hrest hx
    obtain ⟨⟨ys, cs₃⟩, hys, hread⟩ := of_bind_eq_ok hread
    cases hread
    rw [List.length_cons] at hn
    obtain ⟨n, rfl⟩ : ∃ k, n = k + 1 := ⟨n - 1, by omega⟩
    obtain ⟨hcs, haccepts⟩ := ih (fun item hmem => hitems item (List.mem_cons_of_mem _ hmem))
      (fun item hmem => htakes item (List.mem_cons_of_mem _ hmem)) n (by omega) hys
    exact ⟨hcs, List.forall_mem_cons.mpr ⟨⟨[], _, x, blank_nil, hrest, hx⟩, haccepts⟩⟩

theorem ArrayTail.readItems_eq {read : Reader α} {items : List (List Char)} {tail : List Char}
    (h : ArrayTail first items tail) {xs : List α} (hitems : ∀ item ∈ items, ValueText item)
    (hgives : List.Forall₂ (Gives read) items xs) {n : Nat} (hn : items.length < n) (rest : List Char) :
    readItems read n first (tail ++ rest) = .ok (xs, ']' :: rest) := by
  obtain ⟨n, rfl⟩ : ∃ k, n = k + 1 := ⟨n - 1, by omega⟩
  induction h generalizing n xs with
  | close hblanks =>
    cases hgives
    rw [List.append_assoc]
    exact readItems_end (nextItem_close hblanks _ rest) n
  | @item first lead item tail items hlead htail ih =>
    cases hgives with
    | @cons _ x _ xs hx hxs =>
      obtain ⟨c, word, rfl, hopens⟩ := (hitems _ List.mem_cons_self).opens
      rw [List.length_cons] at hn
      obtain ⟨n, rfl⟩ : ∃ k, n = k + 1 := ⟨n - 1, by omega⟩
      rw [List.append_assoc, List.append_assoc, List.cons_append]
      exact readItems_item (nextItem_lead hlead hopens _)
        (hx [] (tail ++ rest) blank_nil (htail.follows rest))
        (ih (fun item hmem => hitems item (List.mem_cons_of_mem _ hmem)) hxs n (by omega))

theorem closeArray_close {blanks : List Char} (h : Blank blanks) (rest : List Char) :
    closeArray (blanks ++ ']' :: rest) = .ok rest := by
  rw [closeArray, skipSpace_append h, skipSpace_cons rfl]
  rfl

namespace Decoder

theorem accepts_of_list {item : Decoder α} {items : List (List Char)} {text : List Char}
    (h : ArrayText items text)
    (htakes : ∀ depth text, ValueText text → Takes (item depth) text) {depth : Nat} {xs : List α}
    {blanks rest cs : List Char} (hblanks : Blank blanks)
    (hread : list item depth (blanks ++ (text ++ rest)) = .ok (xs, cs)) :
    cs = rest ∧ ∀ text ∈ items, Accepts (item (depth - 1)) text := by
  obtain ⟨tail, rfl, htail⟩ := h.brackets
  obtain ⟨-, inside, close, hopen, hinside, hclose⟩ := list_eq_ok.mp hread
  rw [skipSpace_append hblanks, List.cons_append, skipSpace_cons rfl] at hopen
  obtain rfl : tail ++ rest = inside := (List.cons.inj hopen).2
  have hn : items.length < (tail ++ rest).length + 1 := by
    have hless := htail.length_lt h.values
    rw [List.length_append]
    omega
  obtain ⟨rfl, haccepts⟩ :=
    htail.of_readItems h.values (fun text hmem => htakes _ text (h.values text hmem)) hn hinside
  refine ⟨?_, haccepts⟩
  rw [← List.nil_append (']' :: rest), closeArray_close blank_nil] at hclose
  exact (Except.ok.inj hclose).symm

theorem takes_list {item : Decoder α} (hitem : ∀ depth text, ValueText text → Takes (item depth) text)
    {text : List Char} (h : ValueText text) (depth : Nat) : Takes (list item depth) text := by
  intro blanks rest xs cs hblanks _ hread
  obtain ⟨c, tail, rfl, hopens⟩ := h.opens
  obtain ⟨-, inside, close, hopen, -⟩ := list_eq_ok.mp hread
  rw [skipSpace_append hblanks, List.cons_append, skipSpace_cons hopens.not_space] at hopen
  obtain ⟨rfl, -⟩ := List.cons.inj hopen
  obtain ⟨items, htail, hitems⟩ := h.of_bracket
  exact (accepts_of_list ⟨⟨tail, rfl, htail⟩, hitems⟩ hitem hblanks hread).1

theorem gives_list {item : Decoder α} {items : List (List Char)} {text : List Char} {xs : List α}
    (h : ArrayText items text) {depth : Nat} (hdepth : 0 < depth)
    (hgives : List.Forall₂ (Gives (item depth)) items xs) :
    Gives (list item (depth + 1)) text xs := by
  obtain ⟨tail, rfl, htail⟩ := h.brackets
  intro blanks rest hblanks _
  have hn : items.length < (tail ++ rest).length + 1 := by
    have hless := htail.length_lt h.values
    rw [List.length_append]
    omega
  refine list_eq_ok.mpr
    ⟨Nat.succ_lt_succ hdepth, _, _, ?_, htail.readItems_eq h.values hgives hn rest, rfl⟩
  rw [skipSpace_append hblanks, List.cons_append, skipSpace_cons rfl]

end Decoder

/-! ## Whole texts -/

/-- A text holds a value, with space around it. -/
def Holds (text : String) (value : List Char) : Prop :=
  ∃ before after, Blank before ∧ Blank after ∧ text.toList = before ++ (value ++ after)

theorem follows_of_blank {blanks : List Char} (h : Blank blanks) : Follows blanks := by
  rw [← List.append_nil blanks]
  exact follows_append h follows_nil

theorem Holds.decode_eq_ok {decoder : Decoder α} {text : String} {value : List Char} {x : α}
    (h : Holds text value) (hgives : Gives (decoder depthLimit) value x) :
    decode decoder text = .ok x := by
  obtain ⟨before, after, hbefore, hafter, htext⟩ := h
  have hend : skipSpace after = [] := by
    rw [← List.append_nil after, skipSpace_append hafter]
    rfl
  rw [decode, htext, hgives before after hbefore (follows_of_blank hafter)]
  dsimp only [bind, Except.bind]
  rw [hend]
  rfl

theorem Holds.accepts_of_decode {decoder : Decoder α} {text : String} {value : List Char} {x : α}
    (h : Holds text value) (htakes : Takes (decoder depthLimit) value)
    (hdecode : decode decoder text = .ok x) : Accepts (decoder depthLimit) value := by
  obtain ⟨before, after, hbefore, hafter, htext⟩ := h
  obtain ⟨rest, hread⟩ := eq_ok_of_decode hdecode
  rw [htext] at hread
  have hfollows := follows_of_blank hafter
  obtain rfl := htakes before after x rest hbefore hfollows hread
  exact ⟨before, rest, x, hbefore, hfollows, hread⟩

theorem Holds.decode_eq_error {decoder : Decoder α} {text : String} {value : List Char}
    (h : Holds text value) (htakes : Takes (decoder depthLimit) value)
    (hnot : ¬ Accepts (decoder depthLimit) value) : ∃ e, decode decoder text = .error e := by
  cases hdecode : decode decoder text with
  | ok x => exact absurd (h.accepts_of_decode htakes hdecode) hnot
  | error e => exact ⟨e, rfl⟩

end AnchorOutline.Json
