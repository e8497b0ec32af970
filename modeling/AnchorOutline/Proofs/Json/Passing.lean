import AnchorOutline.Json.Skip
import AnchorOutline.Proofs.Json.Grammar

/-!
# Values that are passed

A value that nobody asks for is passed to its end, whatever it is and however deep.

* `Json.skipString_body`, `Json.skipNumber_text` : strings and numbers;
* `Json.Passes` : a text is passed, by as many turns as it has values inside;
* `Json.skipValue_text` : values.
-/

namespace AnchorOutline.Json

/-! ## Strings and numbers -/

theorem skipString_plain {c : Char} (hcontrol : 0x20 ≤ c.toNat) (hquote : c ≠ '"') (hslash : c ≠ '\\')
    (cs : List Char) : skipString (c :: cs) = skipString cs := by
  rw [skipString, if_neg (by omega)]
  · exact hquote
  · exact fun _ _ _ _ _ heq => absurd heq hslash
  · exact hslash

theorem skipString_letter {c x : Char} (h : simpleEscape? c = some x) (cs : List Char) :
    skipString ('\\' :: c :: cs) = skipString cs := by
  have hu : c ≠ 'u' := by
    rintro rfl
    cases h
  rw [skipString, h]
  · rfl
  · exact hu
  · intro _ _ _ _ _ heq
    exact hu (List.cons.inj heq).1

theorem skipString_number {a b c d : Char} {n : Nat} (h : hexQuad? a b c d = some n) (cs : List Char) :
    skipString ('\\' :: 'u' :: a :: b :: c :: d :: cs) = skipString cs := by
  rw [skipString, h]
  rfl

theorem skipString_body {body : List Char} (h : StringBody body) (rest : List Char) :
    skipString (body ++ '"' :: rest) = .ok rest := by
  induction h with
  | nil => rfl
  | plain hcontrol hquote hslash _ ih => exact (skipString_plain hcontrol hquote hslash _).trans ih
  | letter h _ ih => exact (skipString_letter h _).trans ih
  | number h _ ih => exact (skipString_number h _).trans ih

theorem dropDigits_append {digits rest : List Char} (h : Digits digits)
    (hrest : rest.head?.any Char.isDigit = false) :
    dropDigits (digits ++ rest) = (digits.length, rest) := by
  have htake : rest.takeWhile Char.isDigit = [] := by
    cases rest with
    | nil => rfl
    | cons c rest =>
      have hc : ¬ c.isDigit = true := by simpa using hrest
      exact List.takeWhile_cons_of_neg hc
  have hdrop : rest.dropWhile Char.isDigit = rest := by
    cases rest with
    | nil => rfl
    | cons c rest =>
      have hc : ¬ c.isDigit = true := by simpa using hrest
      exact List.dropWhile_cons_of_neg hc
  rw [dropDigits, List.takeWhile_append_of_pos h, List.dropWhile_append_of_pos h, htake, hdrop,
    List.append_nil]

def pastSign (cs : List Char) : List Char :=
  match cs with
  | '+' :: more | '-' :: more => more
  | more => more

def skipExponent (cs : List Char) : Except Failure (List Char) :=
  match cs with
  | 'e' :: more | 'E' :: more =>
    match pastSign more with
    | [] => failAt .invalidNumber []
    | c :: cs => if c.isDigit then return (dropDigits cs).2 else failNext .invalidNumber (c :: cs)
  | rest => return rest

theorem skipNumber_cons {c : Char} (hc : c.isDigit = true) {cs : List Char}
    (hlead : ¬ (c = '0' ∧ cs.head?.any Char.isDigit = true)) :
    skipNumber (c :: cs) = (do
      let rest ← match (dropDigits cs).2 with
        | '.' :: more =>
          let (count, more) := dropDigits more
          if count = 0 then failNext .invalidNumber more else pure more
        | rest => pure rest
      skipExponent rest) := by
  rw [skipNumber, hc, if_neg (by simp), if_neg hlead]
  rfl

theorem skipExponent_text {cs rest : List Char} (h : ExponentText cs) (hrest : Follows rest) :
    skipExponent (cs ++ rest) = .ok rest := by
  cases h with
  | none =>
    rw [List.nil_append, skipExponent]
    · rfl
    · rintro more rfl
      simp [Follows, isSpace] at hrest
    · rintro more rfl
      simp [Follows, isSpace] at hrest
  | @digits letter sign cs hletter hsign hne hcs =>
    obtain ⟨c, cs, rfl⟩ := List.exists_cons_of_ne_nil hne
    have hc : c.isDigit = true := hcs c List.mem_cons_self
    have hdrop := dropDigits_append (fun d hd => hcs d (List.mem_cons_of_mem c hd)) hrest.head_not_digit
    have hunsigned : pastSign (c :: (cs ++ rest)) = c :: (cs ++ rest) := by
      rw [pastSign] <;>
        · intro more heq
          rw [(List.cons.inj heq).1] at hc
          cases hc
    have hsigned : pastSign (sign ++ c :: (cs ++ rest)) = c :: (cs ++ rest) := by
      rcases hsign with rfl | rfl | rfl
      · exact hunsigned
      · rfl
      · rfl
    simp only [List.cons_append, List.append_assoc]
    rcases hletter with rfl | rfl <;> simp [skipExponent, hsigned, hc, hdrop, pure, Except.pure]

theorem skipNumber_text {cs rest : List Char} (h : UnsignedText cs) (hrest : Follows rest) :
    skipNumber (cs ++ rest) = .ok rest := by
  cases h with
  | @intro whole fraction exponent hwhole hfraction hexponent =>
    obtain ⟨c, digits, rfl, hc, hdigits, hzero⟩ := hwhole.exists_digit
    have hscale : (exponent ++ rest).head?.any Char.isDigit = false := by
      cases hexponent with
      | none => exact hrest.head_not_digit
      | digits hletter => rcases hletter with rfl | rfl <;> rfl
    have hpoint : (exponent ++ rest).head? ≠ some '.' := by
      cases hexponent with
      | none =>
        intro hhead
        rcases hrest '.' hhead with hspace | hcomma | hbracket | hbrace
        · cases hspace
        · cases hcomma
        · cases hbracket
        · cases hbrace
      | digits hletter => rcases hletter with rfl | rfl <;> simp
    have hmore : (fraction ++ (exponent ++ rest)).head?.any Char.isDigit = false := by
      cases hfraction with
      | none => exact hscale
      | digits => rfl
    have hlead : ¬ (c = '0' ∧
        (digits ++ (fraction ++ (exponent ++ rest))).head?.any Char.isDigit = true) := by
      rintro ⟨rfl, hnext⟩
      rw [hzero rfl, List.nil_append, hmore] at hnext
      cases hnext
    simp only [List.cons_append, List.append_assoc]
    rw [skipNumber_cons hc hlead, dropDigits_append hdigits hmore]
    have hexponent' := skipExponent_text hexponent hrest
    cases hfraction with
    | none =>
      rw [List.nil_append]
      dsimp only
      split
      next more heq =>
        rw [heq] at hpoint
        exact absurd rfl hpoint
      next => exact hexponent'
    | @digits cs hne hcs =>
      have hcount : cs.length ≠ 0 := by simpa using hne
      simp [dropDigits_append hcs hscale, hcount, hexponent', bind, Except.bind, pure, Except.pure]

/-! ## One value -/

/-- The first token of a value: a scalar is passed, and a bracket is open. -/
def startValue (within : List OpenBracket) (cs : List Char) :
    Except Failure (List OpenBracket × Bool × List Char) :=
  match skipSpace cs with
  | [] => failAt .eofInValue []
  | 'n' :: rest => do return (within, true, ← readKeyword ['u', 'l', 'l'] rest)
  | 't' :: rest => do return (within, true, ← readKeyword ['r', 'u', 'e'] rest)
  | 'f' :: rest => do return (within, true, ← readKeyword ['a', 'l', 's', 'e'] rest)
  | '"' :: rest => do return (within, true, ← skipString rest)
  | '[' :: rest => return (.array :: within, false, rest)
  | '{' :: rest => return (.object :: within, false, rest)
  | '-' :: rest => do return (within, true, ← skipNumber rest)
  | c :: rest =>
    if c.isDigit then do return (within, true, ← skipNumber (c :: rest))
    else failNext .expectedValue (c :: rest)

/-- Closes brackets behind a value, and passes what is left in those that stay open. -/
def passEnds (n : Nat) (afterItem : Bool) (within : List OpenBracket) (cs : List Char) :
    Except Failure (List Char) := do
  let (within, rest) ← skipEnds (within.length + 1) afterItem within cs
  if within.isEmpty then return rest else skipNested n within rest

/-- Passes a value, behind its key if it has one, and what is left in the brackets around it. -/
def passValue (n : Nat) (within : List OpenBracket) (cs : List Char) : Except Failure (List Char) := do
  let (within, afterItem, rest) ← startValue within cs
  passEnds n afterItem within rest

theorem skipNested_succ (n : Nat) (within : List OpenBracket) (cs : List Char) :
    skipNested (n + 1) within cs = (do
      let cs ← if within.head? = some .object then skipKey cs else pure cs
      passValue n within cs) := rfl

/-- A text is passed as a value, by a number of turns that is less than its length. -/
def Passes (text : List Char) : Prop :=
  ∃ turns < text.length, ∀ n within blanks rest, Blank blanks → Follows rest →
    passValue (n + turns) within (blanks ++ (text ++ rest)) = passEnds n true within rest

/-- A text without values inside is passed at once. -/
theorem passes_of_startValue {text : List Char} (hne : text ≠ [])
    (h : ∀ within blanks rest, Blank blanks → Follows rest →
      startValue within (blanks ++ (text ++ rest)) = .ok (within, true, rest)) : Passes text := by
  refine ⟨0, List.length_pos_of_ne_nil hne, fun n within blanks rest hblanks hrest => ?_⟩
  rw [passValue, h within blanks rest hblanks hrest]
  rfl

theorem startValue_number {text rest : List Char} (h : NumberText text) (hrest : Follows rest)
    (within : List OpenBracket) : startValue within (text ++ rest) = .ok (within, true, rest) := by
  cases h with
  | positive h =>
    have hskip := skipNumber_text h hrest
    cases h with
    | intro hwhole hfraction hexponent =>
      obtain ⟨c, digits, rfl, hc, -⟩ := hwhole.exists_digit
      simp only [List.cons_append] at hskip ⊢
      have hne : ∀ c' : Char, c'.isDigit = false → c ≠ c' := by
        rintro c' hc' rfl
        rw [hc] at hc'
        cases hc'
      rw [startValue, skipSpace_cons (isSpace_of_isDigit hc)]
      split
      next heq => cases heq
      next heq => exact absurd (List.cons.inj heq).1 (hne 'n' rfl)
      next heq => exact absurd (List.cons.inj heq).1 (hne 't' rfl)
      next heq => exact absurd (List.cons.inj heq).1 (hne 'f' rfl)
      next heq => exact absurd (List.cons.inj heq).1 (hne '"' rfl)
      next heq => exact absurd (List.cons.inj heq).1 (hne '[' rfl)
      next heq => exact absurd (List.cons.inj heq).1 (hne '{' rfl)
      next heq => exact absurd (List.cons.inj heq).1 (hne '-' rfl)
      next heq =>
        cases heq
        rw [if_pos hc, hskip]
        rfl
  | negative h =>
    rw [startValue, List.cons_append, skipSpace_cons rfl]
    show (do
      let rest ← skipNumber _
      return (within, true, rest) : Except Failure (List OpenBracket × Bool × List Char)) = _
    rw [skipNumber_text h hrest]
    rfl

theorem startValue_append {blanks : List Char} (hblanks : Blank blanks) (within : List OpenBracket)
    (cs : List Char) : startValue within (blanks ++ cs) = startValue within cs := by
  rw [startValue, startValue, skipSpace_append hblanks]

theorem passes_string {body : List Char} (h : StringBody body) : Passes ('"' :: (body ++ ['"'])) := by
  refine passes_of_startValue (by simp) fun within blanks rest hblanks _ => ?_
  rw [startValue_append hblanks, startValue, List.cons_append, skipSpace_cons rfl, List.append_assoc]
  show (do
    let rest ← skipString (body ++ '"' :: rest)
    return (within, true, rest) : Except Failure (List OpenBracket × Bool × List Char)) = _
  rw [skipString_body h]
  rfl

theorem passes_number {text : List Char} (h : NumberText text) : Passes text := by
  obtain ⟨c, rest, htext, -⟩ := h.opens
  refine passes_of_startValue (by simp [htext]) fun within blanks rest hblanks hrest => ?_
  rw [startValue_append hblanks, startValue_number h hrest]

/-! ## Brackets -/

variable {b : OpenBracket} {first : Bool} {lead : List Char}

theorem skipEnds_close {blanks : List Char} (hblanks : Blank blanks) (n : Nat) (afterItem : Bool)
    (b : OpenBracket) (outer : List OpenBracket) (rest : List Char) :
    skipEnds (n + 1) afterItem (b :: outer) (blanks ++ b.closing :: rest) = skipEnds n true outer rest := by
  have hspace : isSpace b.closing = false := by cases b <;> rfl
  have hcomma : ¬ (b.closing = ',' ∧ afterItem = true) := by
    rintro ⟨heq, -⟩
    cases b <;> cases heq
  rw [skipEnds, skipSpace_append hblanks, skipSpace_cons hspace]
  dsimp only
  rw [if_neg hcomma, if_pos rfl]

theorem passEnds_close {blanks : List Char} (hblanks : Blank blanks) (n : Nat) (afterItem : Bool)
    (b : OpenBracket) (within : List OpenBracket) (rest : List Char) :
    passEnds n afterItem (b :: within) (blanks ++ b.closing :: rest) = passEnds n true within rest := by
  rw [passEnds, List.length_cons, skipEnds_close hblanks]
  rfl

/-- What stands before an item or a member is passed, up to space. -/
theorem skipEnds_lead (h : Lead first lead) {c : Char} (hspace : isSpace c = false) (hcomma : c ≠ ',')
    (hclosing : c ≠ b.closing) (n : Nat) (within : List OpenBracket) (cs : List Char) :
    ∃ blanks, Blank blanks ∧
      skipEnds (n + 1) (!first) (b :: within) (lead ++ c :: cs) = .ok (b :: within, blanks ++ c :: cs) := by
  cases h with
  | first h =>
    refine ⟨[], blank_nil, ?_⟩
    rw [skipEnds, skipSpace_append h, skipSpace_cons hspace]
    simp [hcomma, hclosing]
  | next hbefore hafter =>
    refine ⟨_, hafter, ?_⟩
    rw [skipEnds, List.append_assoc, skipSpace_append hbefore, List.cons_append, skipSpace_cons rfl]
    rfl

theorem passEnds_lead (h : Lead first lead) {c : Char} (hspace : isSpace c = false) (hcomma : c ≠ ',')
    (hclosing : c ≠ b.closing) (n : Nat) (within : List OpenBracket) (cs : List Char) :
    ∃ blanks, Blank blanks ∧
      passEnds n (!first) (b :: within) (lead ++ c :: cs) =
        skipNested n (b :: within) (blanks ++ c :: cs) := by
  obtain ⟨blanks, hblanks, hskip⟩ := skipEnds_lead h hspace hcomma hclosing (within.length + 1) within cs
  refine ⟨blanks, hblanks, ?_⟩
  rw [passEnds, List.length_cons, hskip]
  rfl

/-- Items that are passed one by one are passed up to the end of their array. -/
theorem ArrayTail.passes {items : List (List Char)} {tail : List Char} (h : ArrayTail first items tail)
    (hitems : ∀ item ∈ items, Passes item ∧ ∃ c rest, item = c :: rest ∧ Opens c) :
    ∃ turns < tail.length, ∀ n within rest, Follows rest →
      passEnds (n + turns) (!first) (.array :: within) (tail ++ rest) = passEnds n true within rest := by
  induction h with
  | @close first blanks hblanks =>
    refine ⟨0, by simp, fun n within rest _ => ?_⟩
    rw [List.append_assoc]
    exact passEnds_close hblanks n (!first) .array within rest
  | @item first lead item tail items hlead hrest ih =>
    obtain ⟨⟨turns, hturns, hitem⟩, c, cs, rfl, hopens⟩ := hitems _ List.mem_cons_self
    obtain ⟨more, hmore, htail⟩ := ih fun item hmem => hitems item (List.mem_cons_of_mem _ hmem)
    refine ⟨more + turns + 1, by simp only [List.length_append] at hturns ⊢; omega,
      fun n within rest hfollows => ?_⟩
    obtain ⟨blanks, hblanks, hpass⟩ := passEnds_lead (b := .array) hlead hopens.not_space
      hopens.not_comma hopens.not_bracket (n + more + turns + 1) within (cs ++ (tail ++ rest))
    simp only [List.append_assoc, List.cons_append] at hpass hitem ⊢
    rw [← Nat.add_assoc, ← Nat.add_assoc, hpass, skipNested_succ]
    show passValue (n + more + turns) (.array :: within) _ = _
    rw [hitem (n + more) (.array :: within) blanks (tail ++ rest) hblanks (hrest.follows rest)]
    exact htail n within rest hfollows

theorem skipKey_body {blanks body before : List Char} (hblanks : Blank blanks) (h : StringBody body)
    (hbefore : Blank before) (cs : List Char) :
    skipKey (blanks ++ '"' :: (body ++ '"' :: (before ++ ':' :: cs))) = .ok cs := by
  rw [skipKey, skipSpace_append hblanks, skipSpace_cons rfl]
  show (skipString (body ++ '"' :: (before ++ ':' :: cs)) >>= _) = _
  rw [skipString_body h]
  dsimp only [bind, Except.bind]
  rw [skipSpace_append hbefore, skipSpace_cons rfl]
  rfl

theorem ObjectTail.passes {ms : List Member} {tail : List Char} (h : ObjectTail first ms tail)
    (hkeys : ∀ m ∈ ms, StringBody m.body) (hvalues : ∀ m ∈ ms, Passes m.value) :
    ∃ turns < tail.length, ∀ n within rest, Follows rest →
      passEnds (n + turns) (!first) (.object :: within) (tail ++ rest) = passEnds n true within rest := by
  induction h with
  | @close first blanks hblanks =>
    refine ⟨0, by simp, fun n within rest _ => ?_⟩
    rw [List.append_assoc]
    exact passEnds_close hblanks n (!first) .object within rest
  | @member first lead before after tail m ms hlead hbefore hafter hrest ih =>
    obtain ⟨turns, hturns, hvalue⟩ := hvalues m List.mem_cons_self
    obtain ⟨more, hmore, htail⟩ := ih (fun m hm => hkeys m (List.mem_cons_of_mem _ hm))
      fun m hm => hvalues m (List.mem_cons_of_mem _ hm)
    refine ⟨more + turns + 1, by simp only [List.length_append, List.length_cons]; omega,
      fun n within rest hfollows => ?_⟩
    obtain ⟨blanks, hblanks, hpass⟩ := passEnds_lead (b := .object) hlead (c := '"') rfl (by decide)
      (by decide) (n + more + turns + 1) within
      (m.body ++ '"' :: (before ++ ':' :: (after ++ (m.value ++ (tail ++ rest)))))
    simp only [List.append_assoc, List.cons_append] at hpass ⊢
    rw [← Nat.add_assoc, ← Nat.add_assoc, hpass, skipNested_succ]
    show (do
      let cs ← skipKey _
      passValue (n + more + turns) (.object :: within) cs) = _
    rw [skipKey_body hblanks (hkeys m List.mem_cons_self) hbefore]
    show passValue (n + more + turns) (.object :: within) _ = _
    rw [hvalue (n + more) (.object :: within) after (tail ++ rest) hafter (hrest.follows rest)]
    exact htail n within rest hfollows

/-! ## Values -/

theorem ValueText.passes {text : List Char} (h : ValueText text) : Passes text := by
  induction h with
  | isNull =>
    refine passes_of_startValue (by simp) fun within blanks rest hblanks _ => ?_
    rw [startValue_append hblanks]
    rfl
  | isTrue =>
    refine passes_of_startValue (by simp) fun within blanks rest hblanks _ => ?_
    rw [startValue_append hblanks]
    rfl
  | isFalse =>
    refine passes_of_startValue (by simp) fun within blanks rest hblanks _ => ?_
    rw [startValue_append hblanks]
    rfl
  | string h => exact passes_string h
  | number h => exact passes_number h
  | @array items tail h hitems ih =>
    obtain ⟨turns, hturns, htail⟩ := h.passes fun item hmem => ⟨ih item hmem, (hitems item hmem).opens⟩
    refine ⟨turns, Nat.lt_succ_of_lt hturns, fun n within blanks rest hblanks hrest => ?_⟩
    rw [passValue, startValue_append hblanks, startValue, List.cons_append, skipSpace_cons rfl]
    exact htail n within rest hrest
  | @object ms tail h hkeys hvalues ih =>
    obtain ⟨turns, hturns, htail⟩ := h.passes hkeys ih
    refine ⟨turns, Nat.lt_succ_of_lt hturns, fun n within blanks rest hblanks hrest => ?_⟩
    rw [passValue, startValue_append hblanks, startValue, List.cons_append, skipSpace_cons rfl]
    exact htail n within rest hrest

theorem skipValue_text {text : List Char} (h : ValueText text) {blanks rest : List Char}
    (hblanks : Blank blanks) (hrest : Follows rest) :
    skipValue (blanks ++ (text ++ rest)) = .ok rest := by
  obtain ⟨turns, hturns, hpass⟩ := h.passes
  obtain ⟨n, hn⟩ : ∃ n, (blanks ++ (text ++ rest)).length = n + turns := by
    refine ⟨(blanks ++ (text ++ rest)).length - turns, ?_⟩
    simp only [List.length_append]
    omega
  rw [skipValue, skipNested_succ, hn]
  exact hpass n [] blanks rest hblanks hrest

end AnchorOutline.Json
