import AnchorOutline.Text.Blank
import AnchorOutline.Text.Count
import AnchorOutline.Text.Lines
import Mathlib

/-!
# Texts cut and trimmed

* `Text.split_of_not_mem`, `Text.split_append`, `Text.split_join` : what a text is cut into;
* `Text.trim_of_no_blank`, `Text.trim_of_blanks_around`, `Text.trim_stripReturn` : trimming;
* `Text.IsNumeral`, `Text.parseCount?_eq_some_iff` : which texts are read as which numbers;
* `Text.parseCount?_toString` : a number is read as it is written.
-/

namespace AnchorOutline.Text

/-! ## Cutting -/

variable {separator : Char} {piece : List Char}

theorem split_of_not_mem (h : separator ∉ piece) : split separator piece = [piece] := by
  induction piece with
  | nil => rfl
  | cons c cs ih =>
    rw [List.mem_cons, not_or] at h
    rw [split, if_neg (Ne.symm h.1), ih h.2]

theorem split_append (h : separator ∉ piece) (rest : List Char) :
    split separator (piece ++ separator :: rest) = piece :: split separator rest := by
  induction piece with
  | nil => simp [split]
  | cons c cs ih =>
    rw [List.mem_cons, not_or] at h
    rw [List.cons_append, split, if_neg (Ne.symm h.1), ih h.2]

/-- What stands before the first separator, and what stands behind it, are told by the whole. -/
theorem append_cons_inj {before before' after after' : List Char} (h : separator ∉ before)
    (h' : separator ∉ before') (heq : before ++ separator :: after = before' ++ separator :: after') :
    before = before' ∧ after = after' := by
  have hsplit := congrArg (split separator) heq
  rw [split_append h, split_append h'] at hsplit
  obtain rfl : before = before' := (List.cons.inj hsplit).1
  exact ⟨rfl, (List.cons.inj (List.append_cancel_left heq)).2⟩

theorem not_mem_of_mem_split {cs : List Char} (h : piece ∈ split separator cs) : separator ∉ piece := by
  induction cs generalizing piece with
  | nil =>
    obtain rfl : piece = [] := by simpa [split] using h
    exact List.not_mem_nil
  | cons c cs ih =>
    rw [split] at h
    split_ifs at h with hc
    · rcases List.mem_cons.mp h with rfl | h
      · exact List.not_mem_nil
      · exact ih h
    · cases hsplit : split separator cs with
      | nil => exact absurd hsplit (split_ne_nil separator cs)
      | cons first rest =>
        rw [hsplit] at h ih
        rcases List.mem_cons.mp h with rfl | h
        · rw [List.mem_cons, not_or]
          exact ⟨Ne.symm hc, ih List.mem_cons_self⟩
        · exact ih (List.mem_cons_of_mem _ h)

/-- Pieces without the separator in them are what their text is cut into. -/
theorem split_join {pieces : List (List Char)} (hne : pieces ≠ [])
    (h : ∀ piece ∈ pieces, separator ∉ piece) : split separator (join separator pieces) = pieces := by
  induction pieces with
  | nil => exact absurd rfl hne
  | cons piece rest ih =>
    have hpiece := h piece List.mem_cons_self
    cases rest with
    | nil =>
      rw [join, List.intercalate_singleton, split_of_not_mem hpiece]
    | cons next rest =>
      have hrest := ih (List.cons_ne_nil _ _) fun p hp => h p (List.mem_cons_of_mem _ hp)
      rw [join] at hrest ⊢
      rw [List.intercalate_cons_cons, List.append_assoc, List.singleton_append, split_append hpiece,
        hrest]

/-- The pieces have the characters of the text, a separator behind each but the last left out. -/
theorem sum_length_split (separator : Char) (cs : List Char) :
    ((split separator cs).map fun piece => piece.length + 1).sum = cs.length + 1 := by
  induction cs with
  | nil => rfl
  | cons c cs ih =>
    rw [split]
    split_ifs
    · rw [List.map_cons, List.sum_cons, ih, List.length_nil, List.length_cons]
      omega
    · cases hsplit : split separator cs with
      | nil => exact absurd hsplit (split_ne_nil separator cs)
      | cons first rest =>
        rw [hsplit, List.map_cons, List.sum_cons] at ih
        simp only [List.map_cons, List.sum_cons, List.length_cons]
        omega

theorem length_split_le (separator : Char) (cs : List Char) :
    (split separator cs).length ≤ cs.length + 1 := by
  have hle := List.length_le_sum_of_one_le ((split separator cs).map fun piece => piece.length + 1)
    (by simp)
  rwa [List.length_map, sum_length_split] at hle

theorem length_le_of_mem_split {cs : List Char} (h : piece ∈ split separator cs) :
    piece.length ≤ cs.length := by
  have hle := List.single_le_sum (by simp) _
    (List.mem_map_of_mem (f := fun piece : List Char => piece.length + 1) h)
  rw [sum_length_split] at hle
  omega

/-! ## Lines -/

theorem stripReturn_sublist (line : List Char) : (stripReturn line).Sublist line := by
  unfold stripReturn
  split_ifs
  · exact List.dropLast_sublist line
  · exact List.Sublist.refl line

theorem length_lines_le (text : String) : (lines text).length ≤ text.length + 1 := by
  rw [lines, List.length_map]
  exact length_split_le '\n' text.toList

theorem of_mem_lines {text line : String} (h : line ∈ lines text) :
    line.length ≤ text.length ∧ '\n' ∉ line.toList := by
  obtain ⟨piece, hpiece, rfl⟩ := List.mem_map.mp h
  have hsublist := stripReturn_sublist piece
  rw [String.length_ofList, String.toList_ofList]
  exact ⟨hsublist.length_le.trans (length_le_of_mem_split hpiece),
    fun hfeed => not_mem_of_mem_split hpiece (hsublist.subset hfeed)⟩

/-! ## Trimming -/

theorem trim_of_no_blank {s : String} (h : ∀ c ∈ s.toList, isBlank c = false) : trim s = s := by
  have hkeeps : ∀ cs : List Char, (∀ c ∈ cs, isBlank c = false) → cs.dropWhile isBlank = cs := by
    intro cs hcs
    cases cs with
    | nil => rfl
    | cons c rest => exact List.dropWhile_cons_of_neg (by simp [hcs c List.mem_cons_self])
  rw [trim, trimChars, hkeeps _ h, hkeeps _ fun c hc => h c (List.mem_reverse.mp hc),
    List.reverse_reverse, String.ofList_toList]

theorem trimChars_append_blank {c : Char} (hc : isBlank c = true) (cs : List Char) :
    trimChars (cs ++ [c]) = trimChars cs := by
  rw [trimChars, trimChars, List.dropWhile_append]
  split_ifs with hempty
  · rw [List.isEmpty_iff.mp hempty]
    simp [hc]
  · rw [List.reverse_append]
    simp [hc]

theorem trimChars_append_blanks {after : List Char} (h : ∀ c ∈ after, isBlank c = true)
    (cs : List Char) : trimChars (cs ++ after) = trimChars cs := by
  induction after generalizing cs with
  | nil => rw [List.append_nil]
  | cons c rest ih =>
    have hrest : ∀ c ∈ rest, isBlank c = true := fun c hc => h c (List.mem_cons_of_mem _ hc)
    rw [List.append_cons, ih hrest, trimChars_append_blank (h c List.mem_cons_self)]

theorem trim_of_blanks_around {before after : List Char} (hbefore : ∀ c ∈ before, isBlank c = true)
    (hafter : ∀ c ∈ after, isBlank c = true) (cs : List Char) :
    trim (String.ofList (before ++ cs ++ after)) = trim (String.ofList cs) := by
  have hfront : trimChars (before ++ cs) = trimChars cs := by
    rw [trimChars, trimChars, List.dropWhile_append_of_pos hbefore]
  rw [trim, trim, String.toList_ofList, String.toList_ofList, trimChars_append_blanks hafter, hfront]

theorem exists_blanks_around (cs : List Char) :
    ∃ before after, (∀ c ∈ before, isBlank c = true) ∧ (∀ c ∈ after, isBlank c = true) ∧
      cs = before ++ trimChars cs ++ after := by
  have hrest := List.takeWhile_append_dropWhile (p := isBlank) (l := cs)
  have hback := List.takeWhile_append_dropWhile (p := isBlank) (l := (cs.dropWhile isBlank).reverse)
  have hblank : ∀ (l : List Char), ∀ c ∈ l.takeWhile isBlank, isBlank c = true := fun l c hc =>
    List.mem_takeWhile_imp hc
  refine ⟨cs.takeWhile isBlank, ((cs.dropWhile isBlank).reverse.takeWhile isBlank).reverse, hblank cs,
    fun c hc => hblank _ c (List.mem_reverse.mp hc), ?_⟩
  rw [trimChars, List.append_assoc, ← List.reverse_append, hback, List.reverse_reverse, hrest]

theorem trim_trim (s : String) : trim (trim s) = trim s := by
  obtain ⟨before, after, hbefore, hafter, hs⟩ := exists_blanks_around s.toList
  have htrim := trim_of_blanks_around hbefore hafter (trimChars s.toList)
  rw [← hs, String.ofList_toList] at htrim
  exact htrim.symm

theorem trim_stripReturn (cs : List Char) :
    trim (String.ofList (stripReturn cs)) = trim (String.ofList cs) := by
  rw [stripReturn]
  split_ifs with hlast
  · obtain ⟨before, rfl⟩ := List.getLast?_eq_some_iff.mp hlast
    rw [List.dropLast_concat, trim, trim, String.toList_ofList, String.toList_ofList,
      trimChars_append_blank (by cbv)]
  · rfl

theorem isBlank_of_isDigit {c : Char} (h : c.isDigit = true) : isBlank c = false := by
  obtain ⟨hlow, hhigh⟩ : 48 ≤ c.toNat ∧ c.toNat ≤ 57 := by
    simpa [Char.isDigit, UInt32.le_iff_toNat_le] using h
  rw [← Char.ofNat_toNat c]
  generalize c.toNat = n at hlow hhigh
  interval_cases n <;> cbv

/-! ## Numbers -/

theorem isDigit_of_mem_toString {c : Char} {n : Nat} (h : c ∈ (toString n).toList) :
    c.isDigit = true := by
  rw [Nat.toString_eq_repr, Nat.toList_repr] at h
  exact Nat.isDigit_of_mem_toDigits (by decide) (by decide) h

theorem trim_toString (n : Nat) : trim (toString n) = toString n :=
  trim_of_no_blank fun _ hc => isBlank_of_isDigit (isDigit_of_mem_toString hc)

/-- What stands behind a plus sign, or all where there is none. -/
def unsigned : List Char → List Char
  | '+' :: rest => rest
  | cs => cs

theorem unsigned_of_digits {digits : List Char} (h : ∀ c ∈ digits, c.isDigit = true) :
    unsigned digits = digits := by
  unfold unsigned
  split
  next rest => cases h '+' List.mem_cons_self
  next => rfl

/-- Whether a text is decimal digits, behind a plus sign or not, and these stand for a number. -/
structure IsNumeral (s : String) (n : Nat) : Prop where
  ne_nil : unsigned s.toList ≠ []
  digits : ∀ c ∈ unsigned s.toList, c.isDigit = true
  value : Nat.ofDigitChars 10 (unsigned s.toList) 0 = n

theorem isNumeral_toString (n : Nat) : IsNumeral (toString n) n := by
  have hdigits : ∀ c ∈ (toString n).toList, c.isDigit = true := fun c => isDigit_of_mem_toString
  have hunsigned : unsigned (toString n).toList = Nat.toDigits 10 n := by
    rw [unsigned_of_digits hdigits, Nat.toString_eq_repr, Nat.toList_repr]
  refine ⟨?_, ?_, ?_⟩
  · rw [hunsigned]
    exact Nat.toDigits_ne_nil
  · rwa [unsigned_of_digits hdigits]
  · rw [hunsigned]
    exact Nat.ofDigitChars_ten_toDigits

theorem parseCount?_eq (s : String) :
    parseCount? s =
      if (unsigned s.toList).isEmpty || !(unsigned s.toList).all Char.isDigit then none
      else if Nat.ofDigitChars 10 (unsigned s.toList) 0 < 2 ^ 64 then
        some (Nat.ofDigitChars 10 (unsigned s.toList) 0)
      else none := rfl

/-- A numeral is read as the number that it stands for, unless this has more than 64 bits. -/
theorem parseCount?_of_isNumeral {s : String} {n : Nat} (h : IsNumeral s n) :
    parseCount? s = if n < 2 ^ 64 then some n else none := by
  have hsome : ¬((unsigned s.toList).isEmpty || !(unsigned s.toList).all Char.isDigit) = true := by
    simpa [h.ne_nil] using h.digits
  rw [parseCount?_eq, if_neg hsome, h.value]

/-- The texts that are read as a number are the numerals of 64 bits. -/
theorem parseCount?_eq_some_iff {s : String} {n : Nat} :
    parseCount? s = some n ↔ IsNumeral s n ∧ n < 2 ^ 64 := by
  constructor
  · intro h
    rw [parseCount?_eq] at h
    split_ifs at h with hnone hsmall
    obtain rfl := Option.some.inj h
    obtain ⟨hne, hdigits⟩ : unsigned s.toList ≠ [] ∧ ∀ c ∈ unsigned s.toList, c.isDigit = true := by
      simpa using hnone
    exact ⟨⟨hne, hdigits, rfl⟩, hsmall⟩
  · rintro ⟨hnumeral, hsmall⟩
    rw [parseCount?_of_isNumeral hnumeral, if_pos hsmall]

theorem parseCount?_toString {n : Nat} (h : n < 2 ^ 64) : parseCount? (toString n) = some n :=
  parseCount?_eq_some_iff.mpr ⟨isNumeral_toString n, h⟩

end AnchorOutline.Text
