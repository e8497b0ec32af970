import AnchorOutline.Json.Number
import AnchorOutline.Json.Printer
import Mathlib

/-!
# Tokens read back

Strings and integers are read as they were written, whatever stands behind them, as long as that does
not go on with the digits of a number.

* `Json.skipSpace_append` : space is passed, however much of it there is;
* `Json.readString_escape` : a string, its opening quote aside;
* `Json.Stops` : what may stand behind a value that was written;
* `Json.readNumber_toDigits` : an integer behind its sign.
-/

namespace AnchorOutline.Json

/-! ## Space and keywords -/

def Blank (cs : List Char) : Prop := ∀ c ∈ cs, isSpace c = true

theorem blank_nil : Blank [] := by simp [Blank]

theorem blank_space : Blank [' '] := by simp [Blank, isSpace]

theorem blank_breakAt (depth : Nat) : Blank (breakAt depth) := by
  intro c hc
  rcases List.mem_cons.mp hc with rfl | hc
  · rfl
  · rw [List.eq_of_mem_replicate hc]
    rfl

theorem skipSpace_append {blanks : List Char} (h : Blank blanks) (cs : List Char) :
    skipSpace (blanks ++ cs) = skipSpace cs :=
  List.dropWhile_append_of_pos h

theorem skipSpace_cons {c : Char} (h : isSpace c = false) (cs : List Char) :
    skipSpace (c :: cs) = c :: cs := by
  rw [skipSpace, List.dropWhile_cons_of_neg (by simp [h])]

theorem isSpace_of_isDigit {c : Char} (h : c.isDigit = true) : isSpace c = false := by
  cases hspace : isSpace c with
  | false => rfl
  | true =>
    simp only [isSpace, Bool.or_eq_true, beq_iff_eq] at hspace
    rcases hspace with ((rfl | rfl) | rfl) | rfl <;> cases h

/-! ## Strings -/

theorem hexValue?_digitChar : ∀ d < 16, hexValue? (Nat.digitChar d) = some d := by decide

theorem hexQuad?_controlDigits {n : Nat} (h : n < 0x20) :
    hexQuad? '0' '0' (Nat.digitChar (n / 16)) (Nat.digitChar (n % 16)) = some n := by
  have hhigh := hexValue?_digitChar (n / 16) (by omega)
  have hlow := hexValue?_digitChar (n % 16) (by omega)
  have hzero : hexValue? '0' = some 0 := by decide
  simp only [hexQuad?, hzero, hhigh, hlow, Option.bind_eq_bind, Option.bind_some]
  congr 1
  omega

theorem readStringBody_number {n : Nat} (h : n < 0x20) (cs : List Char) :
    readStringBody (['\\', 'u', '0', '0'] ++ controlDigits n ++ cs) =
      (readStringBody cs).map fun (body, rest) => (Char.ofNat n :: body, rest) := by
  have hlow : isLowSurrogate n = false := by
    simp only [isLowSurrogate, Bool.and_eq_false_iff, decide_eq_false_iff_not]
    omega
  have hhigh : isHighSurrogate n = false := by
    simp only [isHighSurrogate, Bool.and_eq_false_iff, decide_eq_false_iff_not]
    omega
  simp only [controlDigits, List.cons_append, List.nil_append]
  rw [readStringBody, hexQuad?_controlDigits h]
  simp only [hlow, hhigh]
  cases readStringBody cs <;> rfl

theorem readStringBody_letter {c x : Char} (h : simpleEscape? c = some x) (cs : List Char) :
    readStringBody ('\\' :: c :: cs) =
      (readStringBody cs).map fun (body, rest) => (x :: body, rest) := by
  have hu : c ≠ 'u' := by
    rintro rfl
    cases h
  rw [readStringBody, h]
  · cases readStringBody cs <;> rfl
  · exact hu
  · intro _ _ _ _ _ heq
    exact hu (List.cons.inj heq).1

theorem readStringBody_cons {c : Char} (h : 0x20 ≤ c.toNat) (hquote : c ≠ '"') (hslash : c ≠ '\\')
    (cs : List Char) :
    readStringBody (c :: cs) =
      (readStringBody cs).map fun (body, rest) => (c :: body, rest) := by
  rw [readStringBody, if_neg (by omega)]
  · cases readStringBody cs <;> rfl
  · exact hquote
  · exact fun _ _ _ _ _ heq => absurd heq hslash
  · exact hslash

/-- A character is read back in front of what follows. -/
theorem readStringBody_escapeChar (c : Char) (cs : List Char) :
    readStringBody (escapeChar c ++ cs) =
      (readStringBody cs).map fun (body, rest) => (c :: body, rest) := by
  unfold escapeChar
  split_ifs with hquote hslash hcontrol hn hr ht hb hf
  · subst hquote
    exact readStringBody_letter rfl cs
  · subst hslash
    exact readStringBody_letter rfl cs
  · subst hn
    exact readStringBody_letter rfl cs
  · subst hr
    exact readStringBody_letter rfl cs
  · subst ht
    exact readStringBody_letter rfl cs
  · obtain rfl : c = '\x08' := Char.toNat_inj.mp hb
    exact readStringBody_letter rfl cs
  · obtain rfl : c = '\x0C' := Char.toNat_inj.mp hf
    exact readStringBody_letter rfl cs
  · rw [readStringBody_number hcontrol, Char.ofNat_toNat]
  · exact readStringBody_cons (by omega) hquote hslash cs

theorem readStringBody_escape (body cs : List Char) :
    readStringBody (escape body ++ '"' :: cs) = .ok (body, cs) := by
  induction body with
  | nil => rfl
  | cons c body ih =>
    rw [escape, List.flatMap_cons, List.append_assoc, readStringBody_escapeChar, ← escape, ih]
    rfl

theorem readString_escape (s : String) (cs : List Char) :
    readString (escape s.toList ++ '"' :: cs) = .ok (s, cs) := by
  rw [readString, readStringBody_escape]
  show Except.ok (String.ofList s.toList, cs) = _
  rw [String.ofList_toList]

/-! ## Integers -/

/-- What may stand behind a value that was written: nothing, a comma or a line break. -/
def Stops (rest : List Char) : Prop := ∀ c ∈ rest.head?, c = ',' ∨ c = '\n'

theorem stops_comma (rest : List Char) : Stops (',' :: rest) := by simp [Stops]

theorem stops_breakAt (depth : Nat) (rest : List Char) : Stops (breakAt depth ++ rest) := by
  simp [Stops, breakAt]

theorem isDigit_head_of_stops {rest : List Char} (h : Stops rest) :
    rest.head?.any Char.isDigit = false := by
  cases rest with
  | nil => rfl
  | cons c rest => rcases h c rfl with rfl | rfl <;> rfl

theorem takeDigits_toDigits {n : Nat} (h : n ≤ largestInteger) (rest : List Char) :
    takeDigits 0 0 (Nat.toDigits 10 n ++ rest) = takeDigits n (Nat.toDigits 10 n).length rest := by
  induction n using Nat.strongRecOn generalizing rest with
  | ind n ih =>
    by_cases hsmall : n < 10
    · simp [Nat.toDigits_of_lt_base hsmall, takeDigits, hsmall, digitValue,
        Nat.toNat_digitChar_of_lt_ten hsmall, h]
    · have hvalue : n / 10 * 10 + digitValue (Nat.digitChar (n % 10)) = n := by
        rw [digitValue, Nat.toNat_digitChar_of_lt_ten (Nat.mod_lt _ (by decide))]
        show n / 10 * 10 + (48 + n % 10 - 48) = n
        omega
      have hdigit : (Nat.digitChar (n % 10)).isDigit = true := by
        simp only [Nat.isDigit_digitChar, decide_eq_true_eq]
        exact Nat.mod_lt _ (by decide)
      rw [Nat.toDigits_of_base_le (by decide) (by omega), List.append_assoc,
        ih (n / 10) (by omega) (by omega), List.singleton_append, takeDigits, hvalue, hdigit]
      simp [h]

theorem takeDigits_of_stops {rest : List Char} (h : Stops rest) (value count : Nat) :
    takeDigits value count rest = (value, count, rest) := by
  have hdigit := isDigit_head_of_stops h
  cases rest with
  | nil => rfl
  | cons c rest =>
    simp only [List.head?_cons, Option.any_some] at hdigit
    simp [takeDigits, hdigit]

theorem dropDigits_of_stops {rest : List Char} (h : Stops rest) : dropDigits rest = (0, rest) := by
  have hdigit := isDigit_head_of_stops h
  cases rest with
  | nil => rfl
  | cons c rest =>
    simp only [List.head?_cons, Option.any_some] at hdigit
    simp [dropDigits, hdigit]

/-- A number other than zero does not begin with a zero. -/
theorem head_toDigits_ne_zero {n : Nat} (h : 0 < n) : (Nat.toDigits 10 n).head? ≠ some '0' := by
  induction n using Nat.strongRecOn with
  | ind n ih =>
    by_cases hsmall : n < 10
    · simp [Nat.toDigits_of_lt_base hsmall, Nat.ne_of_gt h]
    · have hhead := ih (n / 10) (by omega) (by omega)
      rw [Nat.toDigits_of_base_le (by decide) (by omega), List.head?_append]
      cases hds : Nat.toDigits 10 (n / 10) with
      | nil => exact absurd hds Nat.toDigits_ne_nil
      | cons c cs => rwa [hds] at hhead

theorem toDigits_eq_cons (n : Nat) : ∃ c cs, Nat.toDigits 10 n = c :: cs ∧ c.isDigit = true := by
  cases hds : Nat.toDigits 10 n with
  | nil => exact absurd hds Nat.toDigits_ne_nil
  | cons c cs =>
    exact ⟨c, cs, rfl, Nat.isDigit_of_mem_toDigits (b := 10) (n := n) (by decide) (by decide)
      (by rw [hds]; exact List.mem_cons_self)⟩

/-- A zero in front of a number is its only digit. -/
theorem no_leading_zero {n : Nat} {c : Char} {cs rest : List Char}
    (hds : Nat.toDigits 10 n = c :: cs) (hrest : Stops rest) :
    ¬ (c = '0' ∧ (cs ++ rest).head?.any Char.isDigit = true) := by
  rintro ⟨rfl, hnext⟩
  by_cases hpos : 0 < n
  · exact head_toDigits_ne_zero hpos (by rw [hds]; rfl)
  · obtain rfl : n = 0 := by omega
    rw [Nat.toDigits_zero] at hds
    obtain rfl := (List.cons.inj hds).2
    rw [List.nil_append, isDigit_head_of_stops hrest] at hnext
    cases hnext

theorem readNumber_toDigits {n : Nat} (h : n ≤ largestInteger) (negative : Bool) {rest : List Char}
    (hrest : Stops rest) :
    readNumber negative (Nat.toDigits 10 n ++ rest) = integerOf negative n rest := by
  have htake := (takeDigits_toDigits h rest).trans (takeDigits_of_stops hrest n _)
  obtain ⟨c, cs, hds, hdigit⟩ := toDigits_eq_cons n
  rw [hds, List.cons_append] at htake
  rw [hds, List.cons_append, readNumber]
  simp only [hdigit, Bool.not_true, Bool.false_eq_true, if_false,
    if_neg (no_leading_zero hds hrest), htake, dropDigits_of_stops hrest]
  cases rest with
  | nil => rfl
  | cons c rest => rcases hrest c rfl with rfl | rfl <;> rfl

end AnchorOutline.Json
