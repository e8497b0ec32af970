import AnchorOutline.Proofs.Json.Tokens

/-!
# Texts of JSON values

What may stand in a text of JSON, with any space between the tokens and any escapes in the strings. An
array or object is told by the texts of its items or members, so a text may be followed from one of them
to the next without a look inside.

* `Json.StringBody`, `Json.Spells` : the inside of a string, and the characters that it stands for;
* `Json.NumberText` : numbers;
* `Json.ArrayTail`, `Json.ObjectTail` : arrays and objects behind their opening brackets;
* `Json.ValueText` : values;
* `Json.ArrayText`, `Json.ObjectText` : arrays and objects, by their items and members.
-/

namespace AnchorOutline.Json

/-! ## Strings -/

/-- The inside of a string, whatever its escapes by number stand for. -/
inductive StringBody : List Char → Prop
  | nil : StringBody []
  | plain {c : Char} {cs : List Char} (hcontrol : 0x20 ≤ c.toNat) (hquote : c ≠ '"')
      (hslash : c ≠ '\\') (rest : StringBody cs) : StringBody (c :: cs)
  | letter {c x : Char} {cs : List Char} (h : simpleEscape? c = some x) (rest : StringBody cs) :
      StringBody ('\\' :: c :: cs)
  | number {a b c d : Char} {n : Nat} {cs : List Char} (h : hexQuad? a b c d = some n)
      (rest : StringBody cs) : StringBody ('\\' :: 'u' :: a :: b :: c :: d :: cs)

/-- The inside of a string, and the characters that it stands for. Characters beyond 16 bits are written
by two numbers. -/
inductive Spells : List Char → List Char → Prop
  | nil : Spells [] []
  | plain {c : Char} {cs xs : List Char} (hcontrol : 0x20 ≤ c.toNat) (hquote : c ≠ '"')
      (hslash : c ≠ '\\') (rest : Spells cs xs) : Spells (c :: cs) (c :: xs)
  | letter {c x : Char} {cs xs : List Char} (h : simpleEscape? c = some x) (rest : Spells cs xs) :
      Spells ('\\' :: c :: cs) (x :: xs)
  | number {a b c d : Char} {n : Nat} {cs xs : List Char} (h : hexQuad? a b c d = some n)
      (hlow : isLowSurrogate n = false) (hhigh : isHighSurrogate n = false) (rest : Spells cs xs) :
      Spells ('\\' :: 'u' :: a :: b :: c :: d :: cs) (Char.ofNat n :: xs)
  | pair {a b c d e f g h : Char} {m n : Nat} {cs xs : List Char}
      (hfirst : hexQuad? a b c d = some m) (hsecond : hexQuad? e f g h = some n)
      (hhigh : isHighSurrogate m = true) (hlow : isLowSurrogate n = true) (rest : Spells cs xs) :
      Spells ('\\' :: 'u' :: a :: b :: c :: d :: '\\' :: 'u' :: e :: f :: g :: h :: cs)
        (Char.ofNat ((m - 0xD800) * 0x400 + (n - 0xDC00) + 0x10000) :: xs)

theorem Spells.stringBody {cs xs : List Char} (h : Spells cs xs) : StringBody cs := by
  induction h with
  | nil => exact .nil
  | plain hcontrol hquote hslash _ ih => exact .plain hcontrol hquote hslash ih
  | letter h _ ih => exact .letter h ih
  | number h _ _ _ ih => exact .number h ih
  | pair hfirst hsecond _ _ _ ih => exact .number hfirst (.number hsecond ih)

/-- Characters that need no escape stand for themselves. -/
theorem spells_plain {cs : List Char} (h : ∀ c ∈ cs, 0x20 ≤ c.toNat ∧ c ≠ '"' ∧ c ≠ '\\') : Spells cs cs := by
  induction cs with
  | nil => exact .nil
  | cons c cs ih =>
    obtain ⟨hcontrol, hquote, hslash⟩ := h c List.mem_cons_self
    exact .plain hcontrol hquote hslash (ih fun c' hc' => h c' (List.mem_cons_of_mem c hc'))

/-! ## Numbers -/

def Digits (cs : List Char) : Prop := ∀ c ∈ cs, c.isDigit = true

/-- A number before its point: without a zero in front of other digits. -/
inductive WholeText : List Char → Prop
  | zero : WholeText ['0']
  | digits {c : Char} {cs : List Char} (hc : c.isDigit = true) (hne : c ≠ '0') (hcs : Digits cs) :
      WholeText (c :: cs)

inductive FractionText : List Char → Prop
  | none : FractionText []
  | digits {cs : List Char} (hne : cs ≠ []) (hcs : Digits cs) : FractionText ('.' :: cs)

inductive ExponentText : List Char → Prop
  | none : ExponentText []
  | digits {letter : Char} {sign cs : List Char} (hletter : letter = 'e' ∨ letter = 'E')
      (hsign : sign = [] ∨ sign = ['+'] ∨ sign = ['-']) (hne : cs ≠ []) (hcs : Digits cs) :
      ExponentText (letter :: (sign ++ cs))

inductive UnsignedText : List Char → Prop
  | intro {whole fraction exponent : List Char} (hwhole : WholeText whole)
      (hfraction : FractionText fraction) (hexponent : ExponentText exponent) :
      UnsignedText (whole ++ (fraction ++ exponent))

inductive NumberText : List Char → Prop
  | positive {cs : List Char} (h : UnsignedText cs) : NumberText cs
  | negative {cs : List Char} (h : UnsignedText cs) : NumberText ('-' :: cs)

/-! ## Brackets -/

/-- What stands before an item or a member: space, and a comma unless it is the first one. -/
inductive Lead : Bool → List Char → Prop
  | first {blanks : List Char} (h : Blank blanks) : Lead true blanks
  | next {before after : List Char} (hbefore : Blank before) (hafter : Blank after) :
      Lead false (before ++ ',' :: after)

/-- Items, by their texts, up to the closing bracket of their array. -/
inductive ArrayTail : Bool → List (List Char) → List Char → Prop
  | close {first : Bool} {blanks : List Char} (h : Blank blanks) :
      ArrayTail first [] (blanks ++ [']'])
  | item {first : Bool} {lead item tail : List Char} {items : List (List Char)}
      (hlead : Lead first lead) (rest : ArrayTail false items tail) :
      ArrayTail first (item :: items) (lead ++ (item ++ tail))

/-- A member: its key, the inside of the string that it is written as, and the text of its value. -/
structure Member where
  key : String
  body : List Char
  value : List Char
  deriving Repr, DecidableEq

/-- Members up to the closing bracket of their object. -/
inductive ObjectTail : Bool → List Member → List Char → Prop
  | close {first : Bool} {blanks : List Char} (h : Blank blanks) :
      ObjectTail first [] (blanks ++ ['}'])
  | member {first : Bool} {lead before after tail : List Char} {m : Member} {ms : List Member}
      (hlead : Lead first lead) (hbefore : Blank before) (hafter : Blank after)
      (rest : ObjectTail false ms tail) :
      ObjectTail first (m :: ms)
        (lead ++ '"' :: (m.body ++ '"' :: (before ++ ':' :: (after ++ (m.value ++ tail)))))

/-! ## Values -/

/-- The text of a value of any depth. Strings in it need not stand for characters. -/
inductive ValueText : List Char → Prop
  | isNull : ValueText ['n', 'u', 'l', 'l']
  | isTrue : ValueText ['t', 'r', 'u', 'e']
  | isFalse : ValueText ['f', 'a', 'l', 's', 'e']
  | string {body : List Char} (h : StringBody body) : ValueText ('"' :: (body ++ ['"']))
  | number {cs : List Char} (h : NumberText cs) : ValueText cs
  | array {items : List (List Char)} {tail : List Char} (h : ArrayTail true items tail)
      (hitems : ∀ item ∈ items, ValueText item) : ValueText ('[' :: tail)
  | object {ms : List Member} {tail : List Char} (h : ObjectTail true ms tail)
      (hkeys : ∀ m ∈ ms, StringBody m.body) (hvalues : ∀ m ∈ ms, ValueText m.value) :
      ValueText ('{' :: tail)

structure ArrayText (items : List (List Char)) (text : List Char) : Prop where
  brackets : ∃ tail, text = '[' :: tail ∧ ArrayTail true items tail
  values : ∀ item ∈ items, ValueText item

/-- An object of given members, whose keys are strings of characters. -/
structure ObjectText (ms : List Member) (text : List Char) : Prop where
  brackets : ∃ tail, text = '{' :: tail ∧ ObjectTail true ms tail
  keys : ∀ m ∈ ms, Spells m.body m.key.toList
  values : ∀ m ∈ ms, ValueText m.value

theorem ArrayText.valueText {items : List (List Char)} {text : List Char} (h : ArrayText items text) :
    ValueText text := by
  obtain ⟨tail, rfl, htail⟩ := h.brackets
  exact .array htail h.values

theorem ObjectText.valueText {ms : List Member} {text : List Char} (h : ObjectText ms text) :
    ValueText text := by
  obtain ⟨tail, rfl, htail⟩ := h.brackets
  exact .object htail (fun m hm => (h.keys m hm).stringBody) h.values

structure Opens (c : Char) : Prop where
  not_space : isSpace c = false
  not_comma : c ≠ ','
  not_bracket : c ≠ ']'
  not_brace : c ≠ '}'

theorem opens_of_isDigit {c : Char} (h : c.isDigit = true) : Opens c := by
  refine ⟨isSpace_of_isDigit h, ?_, ?_, ?_⟩ <;>
    · rintro rfl
      cases h

theorem WholeText.exists_digit {cs : List Char} (h : WholeText cs) :
    ∃ c rest, cs = c :: rest ∧ c.isDigit = true ∧ Digits rest ∧ (c = '0' → rest = []) := by
  cases h with
  | zero => exact ⟨'0', [], rfl, rfl, nofun, fun _ => rfl⟩
  | digits hc hne hcs => exact ⟨_, _, rfl, hc, hcs, fun hzero => absurd hzero hne⟩

theorem NumberText.opens {cs : List Char} (h : NumberText cs) : ∃ c rest, cs = c :: rest ∧ Opens c := by
  cases h with
  | positive h =>
    cases h with
    | intro hwhole hfraction hexponent =>
      obtain ⟨c, rest, rfl, hc, -⟩ := hwhole.exists_digit
      exact ⟨c, _, rfl, opens_of_isDigit hc⟩
  | negative h => exact ⟨'-', _, rfl, rfl, by decide, by decide, by decide⟩

theorem ValueText.opens {cs : List Char} (h : ValueText cs) : ∃ c rest, cs = c :: rest ∧ Opens c := by
  cases h with
  | isNull => exact ⟨_, _, rfl, rfl, by decide, by decide, by decide⟩
  | isTrue => exact ⟨_, _, rfl, rfl, by decide, by decide, by decide⟩
  | isFalse => exact ⟨_, _, rfl, rfl, by decide, by decide, by decide⟩
  | string h => exact ⟨_, _, rfl, rfl, by decide, by decide, by decide⟩
  | number h => exact h.opens
  | array h => exact ⟨_, _, rfl, rfl, by decide, by decide, by decide⟩
  | object h => exact ⟨_, _, rfl, rfl, by decide, by decide, by decide⟩

/-! ## Behind a value -/

/-- What may stand behind a value: nothing, space, a comma or a closing bracket. -/
def Follows (rest : List Char) : Prop :=
  ∀ c ∈ rest.head?, isSpace c = true ∨ c = ',' ∨ c = ']' ∨ c = '}'

theorem follows_nil : Follows [] := by simp [Follows]

theorem follows_append {blanks rest : List Char} (hblanks : Blank blanks) (h : Follows rest) :
    Follows (blanks ++ rest) := by
  cases blanks with
  | nil => exact h
  | cons c blanks =>
    intro c' hc'
    obtain rfl : c = c' := by simpa using hc'
    exact .inl (hblanks c List.mem_cons_self)

theorem Lead.follows {lead : List Char} (h : Lead false lead) (rest : List Char) :
    Follows (lead ++ rest) := by
  cases h with
  | next hbefore hafter =>
    rw [List.append_assoc]
    exact follows_append hbefore (by simp [Follows])

theorem ArrayTail.follows {items : List (List Char)} {tail : List Char} (h : ArrayTail false items tail)
    (rest : List Char) : Follows (tail ++ rest) := by
  cases h with
  | close h =>
    rw [List.append_assoc]
    exact follows_append h (by simp [Follows])
  | item hlead _ =>
    rw [List.append_assoc]
    exact hlead.follows _

theorem ObjectTail.follows {ms : List Member} {tail : List Char} (h : ObjectTail false ms tail)
    (rest : List Char) : Follows (tail ++ rest) := by
  cases h with
  | close h =>
    rw [List.append_assoc]
    exact follows_append h (by simp [Follows])
  | member hlead _ _ _ =>
    rw [List.append_assoc]
    exact hlead.follows _

theorem Follows.head_not_digit {rest : List Char} (h : Follows rest) :
    rest.head?.any Char.isDigit = false := by
  cases rest with
  | nil => rfl
  | cons c rest =>
    rcases h c rfl with hspace | rfl | rfl | rfl
    · rw [List.head?_cons, Option.any_some, Bool.eq_false_iff]
      intro hdigit
      rw [isSpace_of_isDigit hdigit] at hspace
      cases hspace
    · rfl
    · rfl
    · rfl

end AnchorOutline.Json
