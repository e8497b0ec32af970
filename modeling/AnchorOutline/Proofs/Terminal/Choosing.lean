import AnchorOutline.Proofs.Terminal.Lines
import AnchorOutline.Proofs.Terminal.Printing
import AnchorOutline.Proofs.Text

/-!
# Choosing by a number or a text

A prompt for a choice lists its options and asks until a line cancels, is blank, or means one of them. What
it comes to is told by the lines of the input alone.

* `Terminal.askFrom_of_fits` : one round at a prompt;
* `answerTo?` : what a line comes to at a choice;
* `Terminal.ask_choice_of_text` : which lines a choice reads, what it prints and what it gives;
* `Terminal.ask_own_text_iff` : the options that are chosen by their own text.
-/

namespace AnchorOutline

namespace Terminal

variable {t : Terminal}

/-! ## Rounds at a prompt -/

variable {p : Prompt} {shown : String}

/-- What comes of a prompt that is shown, by the next line. -/
theorem askFrom_of_fits (hfits : t.output.Fits shown) :
    t.askFrom p shown = match (readLine [] t.input).line with
      | .failed e => (.error e, (t.after shown).nextLine.2)
      | .over => (.ok .cancelled, (t.after shown).nextLine.2)
      | .text line => match p.interpret line with
        | .accepted reply => (.ok reply, (t.after shown).nextLine.2)
        | .rejected answer =>
          (t.after shown).nextLine.2.askFrom p (Prompt.rejection answer ++ p.question) := by
  have hprint := print_of_fits hfits
  have hnext : (t.after shown).nextLine =
      ((readLine [] t.input).line, (t.after shown).nextLine.2) := rfl
  generalize (readLine [] t.input).line = read at hnext ⊢
  rw [askFrom]
  split
  next hp => cases hprint.symm.trans hp
  next hp =>
    cases hprint.symm.trans hp
    split
    next hl =>
      cases hnext.symm.trans hl
      rfl
    next hl =>
      cases hnext.symm.trans hl
      rfl
    next hl =>
      cases hnext.symm.trans hl
      rfl

theorem askFrom_of_over (hfits : t.output.Fits shown) (hline : (readLine [] t.input).line = .over) :
    t.askFrom p shown = (.ok .cancelled, (t.after shown).nextLine.2) := by
  simp only [askFrom_of_fits hfits, hline]

theorem text_of_nextLine {t₁ t₂ : Terminal} {line : Line} (hprint : t.print shown = (.ok (), t₁))
    (hline : t₁.nextLine = (line, t₂)) : t₂.output.text = t.output.text ++ shown := by
  have hfits : t.output.Fits shown := fits_of_print (by rw [hprint])
  rw [print_of_fits hfits] at hprint
  cases hprint
  cases hline
  rfl

theorem text_of_askFrom {reply : Reply} {t' : Terminal} (h : t.askFrom p shown = (.ok reply, t')) :
    ∃ more, t'.output.text = t.output.text ++ shown ++ more := by
  fun_induction askFrom p shown t with
  | case1 => cases h
  | case2 => cases h
  | case3 shown t t₁ hprint t₂ hline =>
    cases h
    exact ⟨"", by rw [text_of_nextLine hprint hline, String.append_empty]⟩
  | case4 shown t t₁ hprint line t₂ hline answer hanswer =>
    cases h
    exact ⟨"", by rw [text_of_nextLine hprint hline, String.append_empty]⟩
  | case5 shown t t₁ hprint line t₂ hline answer hanswer ih =>
    obtain ⟨more, hmore⟩ := ih h
    refine ⟨Prompt.rejection answer ++ p.question ++ more, ?_⟩
    rw [hmore, text_of_nextLine hprint hline]
    simp only [String.append_assoc]

end Terminal

/-! ## Answers to a choice -/

/-- What a line comes to at a choice; nothing if it is rejected. -/
def answerTo? (options : List String) (line : String) : Option Reply :=
  if Text.trim line = cancelMark then some .cancelled
  else if Text.trim line = "" then some (.submitted "")
  else (pick options (Text.trim line)).map .submitted

variable {options : List String} {line : String}

theorem Prompt.interpret_choice (options : List String) (placeholder : Option String) (line : String) :
    (Prompt.choice options placeholder).interpret line =
      match answerTo? options line with
      | some reply => .accepted reply
      | none => .rejected (Text.trim line) := by
  rw [Prompt.interpret, answerTo?]
  simp only [String.isEmpty_iff]
  split_ifs
  · rfl
  · rfl
  · cases pick options (Text.trim line) <;> rfl

/-- A number is no blank line and does not cancel. -/
theorem answerTo?_of_isNumeral {n : Nat} (h : Text.IsNumeral (Text.trim line) n) :
    answerTo? options line = (pick options (Text.trim line)).map .submitted := by
  have hcancel : Text.trim line ≠ cancelMark := fun heq => by
    rw [heq] at h
    exact absurd (h.digits ':' (by decide)) (by decide)
  have hempty : Text.trim line ≠ "" := fun heq => by
    rw [heq] at h
    exact h.ne_nil rfl
  rw [answerTo?, if_neg hcancel, if_neg hempty]

theorem answerTo?_number {option : String} {i : Nat} (h : options[i]? = some option)
    (hi : i + 1 < 2 ^ 64) (hline : Text.trim line = toString (i + 1)) :
    answerTo? options line = some (.submitted option) := by
  have hnumeral := Text.isNumeral_toString (i + 1)
  have hcount := Text.parseCount?_toString hi
  rw [← hline] at hnumeral hcount
  have hpick : pick options (Text.trim line) = some option := by
    rw [pick, hcount]
    exact h
  rw [answerTo?_of_isNumeral hnumeral, hpick]
  rfl

theorem mem_of_pick {answer option : String} (h : pick options answer = some option) :
    option ∈ options := by
  unfold pick at h
  split at h
  next => cases h
  next i _ => exact List.mem_of_getElem? h
  next => exact List.mem_of_find?_eq_some h

theorem pick_of_count {answer : String} {n : Nat} (h : Text.parseCount? answer = some n)
    (hn : n = 0 ∨ options.length < n) : pick options answer = none := by
  rw [pick, h]
  rcases n with _ | i
  · rfl
  · have hi : options.length ≤ i := by omega
    exact List.getElem?_eq_none hi

theorem pick_of_text {answer : String} (h : Text.parseCount? answer = none) :
    pick options answer = if answer ∈ options then some answer else none := by
  rw [pick, h]
  dsimp only
  split_ifs with hmem
  · cases hfind : options.find? (· == answer) with
    | none => exact absurd (List.find?_eq_none.mp hfind answer hmem) (by simp)
    | some found =>
      have hsame : (found == answer) = true := List.find?_some (p := (· == answer)) hfind
      rw [eq_of_beq hsame]
  · rw [List.find?_eq_none]
    intro other hother hsame
    exact hmem (eq_of_beq hsame ▸ hother)

theorem mem_of_answerTo? {option : String} (h : answerTo? options line = some (.submitted option))
    (hne : option ≠ "") : option ∈ options := by
  unfold answerTo? at h
  split_ifs at h
  · cases h
  · cases h
    exact absurd rfl hne
  · obtain ⟨picked, hpick, hsame⟩ := Option.map_eq_some_iff.mp h
    cases hsame
    exact mem_of_pick hpick

namespace Terminal

/-! ## Conversations -/

/-- Whether a choice goes on to the next piece of a text. -/
def rejects (options : List String) (piece : List Char) : Bool :=
  (answerTo? options (Text.lineIn piece)).isNone

/-- What a choice prints before every line that it reads. -/
def choiceQuestion (placeholder : Option String) : String :=
  placeholder.getD "Choice" ++ " [number or text, :q cancels]: "

/-- What a choice prints about lines that are rejected, asking again after each. -/
def retries (placeholder : Option String) (rejected : List (List Char)) : String :=
  String.join (rejected.map fun piece =>
    "Not an option: " ++ Text.trim (Text.lineIn piece) ++ "\n" ++ choiceQuestion placeholder)

/-- All that a choice prints when a text comes in. -/
def conversation (options : List String) (placeholder : Option String) (text : List Char) : String :=
  String.join ((options.zipIdx 1).map fun (option, i) => s!"  {i}) {option}\n") ++
    choiceQuestion placeholder ++
    retries placeholder ((Text.pieces text).takeWhile (rejects options))

/-- The pieces of a text from the first that is answered by a choice. -/
def answered (options : List String) (text : List Char) : List (List Char) :=
  (Text.pieces text).dropWhile (rejects options)

variable {t : Terminal} {text : List Char} {placeholder : Option String} {shown : String}

theorem append_retries_nil (shown : String) (placeholder : Option String) :
    shown ++ retries placeholder [] = shown := String.append_empty

theorem retries_cons (placeholder : Option String) (piece : List Char) (later : List (List Char)) :
    retries placeholder (piece :: later) =
      "Not an option: " ++ Text.trim (Text.lineIn piece) ++ "\n" ++ choiceQuestion placeholder ++
        retries placeholder later := String.join_cons

theorem askFrom_choice_of_text (options : List String) (placeholder : Option String)
    (hfits : t.output.Fits shown) (hline : (readLine [] t.input).line = .text line) :
    t.askFrom (.choice options placeholder) shown = match answerTo? options line with
      | some reply => (.ok reply, (t.after shown).nextLine.2)
      | none => (t.after shown).nextLine.2.askFrom (.choice options placeholder)
          ("Not an option: " ++ Text.trim line ++ "\n" ++ choiceQuestion placeholder) := by
  simp only [askFrom_of_fits hfits, hline, Prompt.interpret_choice]
  cases answerTo? options line <;> rfl

theorem longer_of_rejected (hfits : t.output.Fits shown)
    (hline : (readLine [] t.input).line = .text line) (hanswer : answerTo? options line = none)
    {reply : Reply} {t' : Terminal}
    (hask : t.askFrom (.choice options placeholder) shown = (.ok reply, t')) :
    (t.output.text ++ shown).length < t'.output.text.length := by
  rw [askFrom_choice_of_text options placeholder hfits hline, hanswer] at hask
  obtain ⟨more, hmore⟩ := text_of_askFrom hask
  have hmark : "Not an option: ".length = 15 := rfl
  rw [hmore, show (t.after shown).nextLine.2.output.text = t.output.text ++ shown from rfl]
  simp only [String.length_append, hmark]
  omega

/-- The rounds of a choice follow the pieces of the text. -/
theorem askFrom_choice {pieces : List (List Char)} (hpieces : Text.pieces text = pieces)
    (hspells : Spells t.input text)
    (hfits : t.output.Fits (shown ++ retries placeholder (pieces.takeWhile (rejects options)))) :
    ∃ reply t', t.askFrom (.choice options placeholder) shown = (.ok reply, t') ∧
      t'.output = t.output.append
        (shown ++ retries placeholder (pieces.takeWhile (rejects options))) ∧
      (match pieces.dropWhile (rejects options) with
        | [] => reply = .cancelled
        | piece :: _ => answerTo? options (Text.lineIn piece) = some reply) ∧
      Spells t'.input (pieces.dropWhile (rejects options)).tail.flatten := by
  induction pieces generalizing t text shown with
  | nil =>
    have htext : text = [] := by rw [← Text.flatten_pieces text, hpieces]; rfl
    subst htext
    obtain ⟨hover, hrest⟩ := hspells.nil
    obtain ⟨hshown, -⟩ := Output.fits_append.mp hfits
    refine ⟨.cancelled, _, askFrom_of_over hshown hover, ?_, rfl, hrest⟩
    rw [List.takeWhile_nil, append_retries_nil]
    rfl
  | cons piece later ih =>
    obtain ⟨hline, hrest, hlater⟩ := hspells.piece hpieces
    cases hanswer : answerTo? options (Text.lineIn piece) with
    | some reply =>
      have hends : ¬rejects options piece = true := by simp [rejects, hanswer]
      rw [List.takeWhile_cons_of_neg hends] at hfits ⊢
      rw [List.dropWhile_cons_of_neg hends]
      obtain ⟨hshown, -⟩ := Output.fits_append.mp hfits
      refine ⟨reply, (t.after shown).nextLine.2, ?_, ?_, hanswer, hrest⟩
      · rw [askFrom_choice_of_text options placeholder hshown hline, hanswer]
      · rw [append_retries_nil]
        rfl
    | none =>
      have hgoes : rejects options piece = true := by simp [rejects, hanswer]
      rw [List.takeWhile_cons_of_pos hgoes] at hfits ⊢
      rw [List.dropWhile_cons_of_pos hgoes]
      obtain ⟨hshown, hmore⟩ := Output.fits_append.mp hfits
      rw [retries_cons] at hmore ⊢
      obtain ⟨reply, t', hask, houtput, hreply, hleft⟩ :=
        ih (t := (t.after shown).nextLine.2) hlater hrest hmore
      refine ⟨reply, t', ?_, ?_, hreply, hleft⟩
      · rw [askFrom_choice_of_text options placeholder hshown hline, hanswer]
        exact hask
      · rw [houtput]
        exact Output.append_append t.output _ _

/-- A choice reads up to the first line that cancels, is blank or means an option, asks again after
every line before it, and leaves everything behind it; at the end of the text it is cancelled. -/
theorem ask_choice_of_text (options : List String) (placeholder : Option String) {t : Terminal}
    {text : List Char} (hspells : Spells t.input text)
    (hfits : t.output.Fits (conversation options placeholder text)) :
    ∃ reply t', t.ask (.choice options placeholder) = (.ok reply, t') ∧
      t'.output.text = t.output.text ++ conversation options placeholder text ∧
      (match answered options text with
        | [] => reply = .cancelled
        | piece :: _ => answerTo? options (Text.lineIn piece) = some reply) ∧
      Spells t'.input (answered options text).tail.flatten ∧
      ∀ option, reply = .submitted option → option ≠ "" → option ∈ options := by
  obtain ⟨reply, t', hask, houtput, hreply, hleft⟩ := askFrom_choice rfl hspells hfits
  refine ⟨reply, t', hask, by rw [houtput]; rfl, hreply, hleft, ?_⟩
  rintro option rfl hne
  split at hreply
  next => cases hreply
  next => exact mem_of_answerTo? hreply hne

/-- A number too large and a text that is none are rejected, and what is behind the answer is left. -/
theorem ask_choice_after_two :
    let t : Terminal :=
      { input := [.bytes (encode "7\nno".toList), .bytes (encode "pe\n 1\nrest".toList)] }
    Spells t.input "7\nnope\n 1\nrest".toList ∧
    ∃ t', t.ask (.choice ["^# .*", "TODO"] none) = (.ok (.submitted "^# .*"), t') ∧
      t'.output.text = "  1) ^# .*\n  2) TODO\n" ++
        "Choice [number or text, :q cancels]: Not an option: 7\n" ++
        "Choice [number or text, :q cancels]: Not an option: nope\n" ++
        "Choice [number or text, :q cancels]: " ∧
      Spells t'.input "rest".toList := by
  intro t
  have hspells : Spells t.input "7\nnope\n 1\nrest".toList := ⟨rfl, by simp [t]⟩
  refine ⟨hspells, ?_⟩
  have hpieces : Text.pieces "7\nnope\n 1\nrest".toList =
      ["7\n".toList, "nope\n".toList, " 1\n".toList, "rest".toList] := by cbv
  have hseven : Text.trim (Text.lineIn "7\n".toList) = "7" := by cbv
  have hnope : Text.trim (Text.lineIn "nope\n".toList) = "nope" := by cbv
  have hlarge : answerTo? ["^# .*", "TODO"] (Text.lineIn "7\n".toList) = none := by
    rw [answerTo?, hseven]
    rfl
  have hnone : answerTo? ["^# .*", "TODO"] (Text.lineIn "nope\n".toList) = none := by
    rw [answerTo?, hnope]
    rfl
  have hfirst : answerTo? ["^# .*", "TODO"] (Text.lineIn " 1\n".toList) =
      some (.submitted "^# .*") := by
    rw [answerTo?, show Text.trim (Text.lineIn " 1\n".toList) = "1" by cbv]
    rfl
  have hanswered : answered ["^# .*", "TODO"] "7\nnope\n 1\nrest".toList =
      [" 1\n".toList, "rest".toList] := by
    simp only [answered, hpieces, rejects, hlarge, hnone, hfirst, List.dropWhile_cons,
      Option.isNone_none, Option.isNone_some, if_true, Bool.false_eq_true, if_false]
  obtain ⟨reply, t', hask, htext, hreply, hleft, -⟩ := ask_choice_of_text ["^# .*", "TODO"] none
    hspells (Output.fits_of_room rfl _)
  rw [hanswered] at hreply hleft
  obtain rfl : reply = .submitted "^# .*" := Option.some.inj (hreply.symm.trans hfirst)
  refine ⟨t', hask, ?_, hleft⟩
  rw [htext, conversation, hpieces]
  simp only [rejects, hlarge, hnone, hfirst, List.takeWhile_cons,
      Option.isNone_none, Option.isNone_some, if_true, Bool.false_eq_true, if_false]
  rw [retries_cons, retries_cons, hseven, hnope]
  rfl

/-! ## Own texts -/

/-- An option that is answered with its own text is chosen at once just if it has no blanks at its ends
and is no number. -/
theorem ask_own_text_iff (placeholder : Option String) {option : String} (hoption : option ∈ options)
    (hfeed : '\n' ∉ option.toList) (hblank : Text.trim option ≠ "")
    (hcancel : Text.trim option ≠ cancelMark)
    (hcount : ∀ n, Text.parseCount? (Text.trim option) = some n → n = 0 ∨ options.length < n)
    {more : List UInt8} (hinput : ahead t.input = encode option.toList ++ lineFeed :: more)
    (hfits : t.output.Fits ((Prompt.choice options placeholder).preamble ++ choiceQuestion placeholder)) :
    (∃ t', t.ask (.choice options placeholder) = (.ok (.submitted option), t') ∧
      t'.output.text = t.output.text ++
        ((Prompt.choice options placeholder).preamble ++ choiceQuestion placeholder) ∧
      ahead t'.input = more) ↔
    Text.trim option = option ∧ Text.parseCount? option = none := by
  obtain ⟨hline, hmore⟩ := readLine_of_feed hfeed hinput
  have htrim := Text.trim_stripReturn option.toList
  rw [String.ofList_toList] at htrim
  have hround := askFrom_choice_of_text options placeholder hfits hline
  have hanswer : answerTo? options (String.ofList (Text.stripReturn option.toList)) =
      (pick options (Text.trim option)).map .submitted := by
    rw [answerTo?, htrim, if_neg hcancel, if_neg hblank]
  constructor
  · rintro ⟨t', hask, htext, -⟩
    cases hpick : pick options (Text.trim option) with
    | none =>
      rw [hpick, Option.map_none] at hanswer
      have hlonger := longer_of_rejected hfits hline hanswer hask
      rw [htext] at hlonger
      exact absurd hlonger (lt_irrefl _)
    | some picked =>
      rw [hanswer, hpick] at hround
      obtain ⟨rfl, -⟩ : picked = option ∧ _ := by simpa using hround.symm.trans hask
      cases hnumber : Text.parseCount? (Text.trim picked) with
      | some n =>
        rw [pick_of_count hnumber (hcount n hnumber)] at hpick
        cases hpick
      | none =>
        rw [pick_of_text hnumber] at hpick
        split_ifs at hpick
        have hends : Text.trim picked = picked := Option.some.inj hpick
        rw [hends] at hnumber
        exact ⟨hends, hnumber⟩
  · rintro ⟨hends, hnone⟩
    rw [hanswer, hends, pick_of_text hnone, if_pos hoption] at hround
    exact ⟨_, hround, rfl, hmore⟩

/-- A text that is no number and has no blanks around it is chosen by itself. -/
theorem ask_own_text_todo :
    let t : Terminal := { input := [.bytes (encode "TODO\nrest".toList)] }
    ∃ t', t.ask (.choice ["^# .*", "TODO"] none) = (.ok (.submitted "TODO"), t') ∧
      t'.output.text =
        "  1) ^# .*\n  2) TODO\nChoice [number or text, :q cancels]: " ∧
      ahead t'.input = encode "rest".toList := by
  intro t
  have htrim : Text.trim "TODO" = "TODO" := by cbv
  have hnone : Text.parseCount? "TODO" = none := by decide +kernel
  have hcount : ∀ n, Text.parseCount? (Text.trim "TODO") = some n → n = 0 ∨ 2 < n := by
    intro n hn
    rw [htrim, hnone] at hn
    cases hn
  have hoption : "TODO" ∈ ["^# .*", "TODO"] := by decide
  have hblank : Text.trim "TODO" ≠ "" := by
    rw [htrim]
    decide
  have hcancel : Text.trim "TODO" ≠ cancelMark := by
    rw [htrim]
    decide
  have hinput : ahead t.input = encode "TODO".toList ++ lineFeed :: encode "rest".toList := rfl
  exact (ask_own_text_iff none hoption (by decide) hblank hcancel hcount hinput
    (Output.fits_of_room rfl _)).mpr ⟨htrim, hnone⟩

/-- A year is a number, so that it is not chosen by itself, not even as the only option. -/
theorem ask_own_text_year :
    let t : Terminal := { input := [.bytes (encode "2024\n".toList)] }
    Text.trim "2024" = "2024" ∧ Text.parseCount? "2024" = some 2024 ∧
      ∃ t', t.ask (.choice ["2024"] none) = (.ok .cancelled, t') ∧
        t'.output.text = "  1) 2024\nChoice [number or text, :q cancels]: " ++
          "Not an option: 2024\nChoice [number or text, :q cancels]: " := by
  intro t
  have htrim : Text.trim "2024" = "2024" := by cbv
  have hinput : ahead t.input = encode "2024".toList ++ lineFeed :: [] := rfl
  obtain ⟨hline, -⟩ := readLine_of_feed (by decide) hinput
  have hanswer : answerTo? ["2024"] (String.ofList (Text.stripReturn "2024".toList)) = none := by
    rw [show String.ofList (Text.stripReturn "2024".toList) = "2024" from rfl, answerTo?, htrim]
    rfl
  refine ⟨htrim, rfl, ?_⟩
  rw [ask, askFrom_choice_of_text _ _ (Output.fits_of_room rfl _) hline, hanswer]
  refine ⟨_, askFrom_of_over (Output.fits_of_room rfl _) rfl, ?_⟩
  rw [show String.ofList (Text.stripReturn "2024".toList) = "2024" from rfl, htrim]
  rfl

end Terminal

end AnchorOutline
