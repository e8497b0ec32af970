import AnchorOutline.Proofs.Terminal.Choosing

/-!
# Numbers at a choice

The options of a choice are numbered from one on. Such a number chooses the option beside which it stands,
whatever the texts of the options are, and every other number chooses none: it is read before the texts
are looked at, and one that has more than 64 bits is no number but a text.

* `Terminal.numbered` : the options with their numbers, as they are printed;
* `Terminal.Comes` : the next line that comes in;
* `Terminal.askFrom_of_comes` : one round of a choice, by that line;
* `Terminal.ask_by_number` : the rounds in which a number is typed.
-/

namespace AnchorOutline

variable {options : List String} {line : String}

/-! ## Numbers that are no option's -/

theorem answerTo?_out_of_range {n : Nat} (h : Text.parseCount? (Text.trim line) = some n)
    (hn : n = 0 ∨ options.length < n) : answerTo? options line = none := by
  rw [answerTo?_of_isNumeral (Text.parseCount?_eq_some_iff.mp h).1, pick_of_count h hn]
  rfl

/-- A numeral of more than 64 bits is taken as a text. -/
theorem answerTo?_too_large {n : Nat} (h : Text.IsNumeral (Text.trim line) n) (hn : 2 ^ 64 ≤ n) :
    answerTo? options line =
      if Text.trim line ∈ options then some (.submitted (Text.trim line)) else none := by
  have hnone : Text.parseCount? (Text.trim line) = none := by
    rw [Text.parseCount?_of_isNumeral h, if_neg (Nat.not_lt.mpr hn)]
  rw [answerTo?_of_isNumeral h, pick_of_text hnone]
  split_ifs <;> rfl

namespace Terminal

variable {t : Terminal} {placeholder : Option String} {shown : String}

/-! ## The options with their numbers -/

def numbered (options : List String) : String :=
  String.join (List.ofFn fun i : Fin options.length => s!"  {i.val + 1}) {options[i]}\n")

theorem preamble_eq_numbered (options : List String) (placeholder : Option String) :
    (Prompt.choice options placeholder).preamble = numbered options := by
  rw [Prompt.preamble, numbered]
  refine congrArg String.join (List.ext_getElem (by simp) fun i _ _ => ?_)
  simp [Nat.add_comm]

/-! ## The next line -/

/-- The next line that comes in, and the bytes behind it: a line feed ends it, or the end of the input. -/
inductive Comes (input : List Arrival) (line : List Char) : List UInt8 → Prop where
  | feed {more : List UInt8} (h : ahead input = encode line ++ lineFeed :: more) : Comes input line more
  | last (hne : line ≠ []) (h : Spells input line) : Comes input line []

/-- The line is read as it is, but for a carriage return at its end. -/
theorem Comes.readLine {input : List Arrival} {line : List Char} {more : List UInt8}
    (h : Comes input line more) (hfeed : '\n' ∉ line) :
    ∃ read, (readLine [] input).line = .text read ∧ Text.trim read = Text.trim (String.ofList line) ∧
      ahead (readLine [] input).rest = more := by
  cases h with
  | feed h =>
    obtain ⟨hline, hmore⟩ := readLine_of_feed hfeed h
    exact ⟨_, hline, Text.trim_stripReturn line, hmore⟩
  | last hne h =>
    obtain ⟨hline, hrest, -⟩ := h.piece (Text.pieces_of_no_feed hfeed hne)
    exact ⟨_, hline, congrArg Text.trim (Text.lineIn_of_no_feed hfeed), hrest.bytes⟩

/-! ## Rounds of a choice -/

/-- A choice tells that an answer is none of the options, and asks once more. -/
def askAgain (options : List String) (placeholder : Option String) (answer : String) (t : Terminal) :
    Except String Reply × Terminal :=
  t.askFrom (.choice options placeholder)
    ("Not an option: " ++ answer ++ "\n" ++ choiceQuestion placeholder)

/-- One round of a choice, by what the next line comes to. -/
theorem askFrom_of_comes (options : List String) (placeholder : Option String)
    (hfits : t.output.Fits shown) {line : List Char} {more : List UInt8} (hfeed : '\n' ∉ line)
    (hcomes : Comes t.input line more) :
    ∃ t', t'.output = t.output.append shown ∧ ahead t'.input = more ∧
      t.askFrom (.choice options placeholder) shown =
        match answerTo? options (String.ofList line) with
        | some reply => (.ok reply, t')
        | none => t'.askAgain options placeholder (Text.trim (String.ofList line)) := by
  obtain ⟨read, hline, htrim, hmore⟩ := hcomes.readLine hfeed
  refine ⟨(t.after shown).nextLine.2, rfl, hmore, ?_⟩
  have hanswer : answerTo? options read = answerTo? options (String.ofList line) := by
    rw [answerTo?, answerTo?, htrim]
  rw [askFrom_choice_of_text options placeholder hfits hline, hanswer, htrim]
  rfl

/-- A choice prints the options behind their numbers. In every round, whatever was asked and rejected
before, the number of an option chooses it with blanks around the number or without; a number that none of
them has chooses none, so that it is asked once more, and nor does one of more than 64 bits, unless it is
the text of an option. There are never so many options that one would need such a number. -/
theorem ask_by_number {options : List String} (hsize : options.length < 2 ^ 64)
    (placeholder : Option String) {t : Terminal} {shown : String} (hfits : t.output.Fits shown)
    {line : List Char} {more : List UInt8} (hfeed : '\n' ∉ line) (hcomes : Comes t.input line more) :
    let p : Prompt := .choice options placeholder
    let answer := Text.trim (String.ofList line)
    t.ask p = t.askFrom p (numbered options ++ choiceQuestion placeholder) ∧
    ∃ t', t'.output = t.output.append shown ∧ ahead t'.input = more ∧
      (∀ i (hi : i < options.length) (before after : List Char),
        line = before ++ (toString (i + 1)).toList ++ after →
        (∀ c ∈ before ++ after, Text.isBlank c = true) →
        t.askFrom p shown = (.ok (.submitted options[i]), t')) ∧
      (∀ n, Text.parseCount? answer = some n → n = 0 ∨ options.length < n →
        t.askFrom p shown = t'.askAgain options placeholder answer) ∧
      ∀ n, Text.IsNumeral answer n → 2 ^ 64 ≤ n →
        t.askFrom p shown =
          if answer ∈ options then (.ok (.submitted answer), t')
          else t'.askAgain options placeholder answer := by
  intro p answer
  obtain ⟨t', houtput, hmore, hround⟩ := askFrom_of_comes options placeholder hfits hfeed hcomes
  refine ⟨?_, t', houtput, hmore, ?_, ?_, ?_⟩
  · exact congrArg (fun listed => t.askFrom p (listed ++ choiceQuestion placeholder))
      (preamble_eq_numbered options placeholder)
  · intro i hi before after hline hblank
    have htrim : Text.trim (String.ofList line) = toString (i + 1) := by
      rw [hline, Text.trim_of_blanks_around (fun c hc => hblank c (List.mem_append_left _ hc))
        (fun c hc => hblank c (List.mem_append_right _ hc)), String.ofList_toList, Text.trim_toString]
    have hanswer := answerTo?_number (List.getElem?_eq_getElem hi) (by omega) htrim
    rw [hround, hanswer]
  · intro n hcount hn
    rw [hround, answerTo?_out_of_range hcount hn]
  · intro n hnumeral hn
    rw [hround, answerTo?_too_large hnumeral hn]
    split_ifs <;> rfl

/-- Neither zero nor a number that would be one in 64 bits chooses the first option. The number of the
second one chooses it with its blanks, although the first one has this number as its text. -/
theorem ask_by_number_of_second :
    let t : Terminal :=
      { input := [.bytes (encode "0\n18446744073709551617\n".toList), .bytes (encode " 2\t\r\nrest".toList)] }
    ∃ t', t.ask (.choice ["2", " x "] none) = (.ok (.submitted " x "), t') ∧
      ahead t'.input = encode "rest".toList ∧
      t'.output.text = "  1) 2\n  2)  x \nChoice [number or text, :q cancels]: " ++
        "Not an option: 0\nChoice [number or text, :q cancels]: " ++
        "Not an option: 18446744073709551617\nChoice [number or text, :q cancels]: " := by
  intro t
  have hzero : Text.trim (String.ofList "0".toList) = "0" := by cbv
  have hdigits : toString (2 ^ 64 + 1) = "18446744073709551617" := by cbv
  have hlarge : Text.trim (String.ofList "18446744073709551617".toList) = "18446744073709551617" := by
    rw [String.ofList_toList, ← hdigits, Text.trim_toString]
  have hnumeral : Text.IsNumeral "18446744073709551617" (2 ^ 64 + 1) :=
    hdigits ▸ Text.isNumeral_toString (2 ^ 64 + 1)
  have hsize : ["2", " x "].length < 2 ^ 64 := by decide
  have hcomes₁ : Comes t.input "0".toList (encode "18446744073709551617\n 2\t\r\nrest".toList) := .feed rfl
  obtain ⟨hask, t₁, houtput₁, hmore₁, -, hround₁, -⟩ :=
    ask_by_number hsize none (Output.fits_of_room rfl _) (by decide) hcomes₁
  rw [hround₁ 0 (by rw [hzero]; rfl) (.inl rfl), hzero] at hask
  have hcomes₂ : Comes t₁.input "18446744073709551617".toList (encode " 2\t\r\nrest".toList) := .feed hmore₁
  obtain ⟨-, t₂, houtput₂, hmore₂, -, -, hround₂⟩ :=
    ask_by_number hsize none (Output.fits_of_room (by rw [houtput₁]; rfl) _) (by decide) hcomes₂
  rw [hlarge] at hround₂
  rw [askAgain, hround₂ (2 ^ 64 + 1) hnumeral (by decide), if_neg (by decide)] at hask
  have hcomes₃ : Comes t₂.input " 2\t\r".toList (encode "rest".toList) := .feed hmore₂
  obtain ⟨-, t₃, houtput₃, hmore₃, hround₃, -⟩ :=
    ask_by_number hsize none (Output.fits_of_room (by rw [houtput₂, houtput₁]; rfl) _) (by decide) hcomes₃
  have hblank : ∀ c ∈ [' '] ++ ['\t', '\r'], Text.isBlank c = true := by
    simp only [List.cons_append, List.nil_append, List.forall_mem_cons]
    exact ⟨by cbv, by cbv, by cbv, by simp⟩
  rw [askAgain, hround₃ 1 (by decide) [' '] ['\t', '\r'] rfl hblank] at hask
  refine ⟨t₃, hask, hmore₃, ?_⟩
  rw [houtput₃, houtput₂, houtput₁]
  rfl

end Terminal

end AnchorOutline
