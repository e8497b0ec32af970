import AnchorOutline.Proofs.Outline.LineBreaks
import AnchorOutline.Proofs.Terminal.Choosing

/-!
# Texts that are typed

A prompt for a text takes the next line as it is, blanks and all. Of prompts that are shown one after the
other each gets a line of its own, whatever breaks the lines have, and behind the last line all of them are
cancelled.

* `Terminal.Typed` : answers that come in, each on a line of its own;
* `Terminal.Typed.nil`, `Terminal.Typed.cons` : what is read of them, and what is left;
* `Terminal.askTexts` : prompts for texts, one after the other;
* `Terminal.askTexts_of_typed` : what they give.
-/

namespace AnchorOutline

/-! ## Lines and their pieces -/

namespace Text

variable {line : String}

theorem lineIn_of_isLine (h : IsLine line) : lineIn line.toList = line := by
  rw [lineIn_of_no_feed h.no_feed, String.ofList_toList]

theorem pieces_break (h : IsLine line) (b : LineBreak) (rest : String) :
    ∃ piece, pieces (line ++ b.text ++ rest).toList = piece :: pieces rest.toList ∧ lineIn piece = line := by
  obtain ⟨cs, hfeed, hstrip, htext⟩ := h.exists_break b
  refine ⟨cs ++ ['\n'], ?_, ?_⟩
  · rw [htext, pieces_feed hfeed]
  · rw [lineIn_feed, hstrip, String.ofList_toList]

end Text

namespace Terminal

/-! ## Answers on lines -/

/-- Answers come in to the end of the input, each on a line with a break of its own. The last one may have
none, unless it is empty. -/
structure Typed (input : List Arrival) (answers : List String) : Prop where
  lines : ∀ answer ∈ answers, Text.IsLine answer
  spelled : ∃ ended last, answers = ended.map Prod.fst ++ (if last = "" then [] else [last]) ∧
    Spells input (Text.written ended last).toList

variable {input : List Arrival} {answer : String} {answers : List String}

theorem Typed.nil (h : Typed input []) :
    (readLine [] input).line = .over ∧ Typed (readLine [] input).rest [] := by
  obtain ⟨ended, last, hnone, hspells⟩ := h.spelled
  obtain ⟨hended, hlast⟩ := List.append_eq_nil_iff.mp hnone.symm
  obtain rfl : ended = [] := List.map_eq_nil_iff.mp hended
  obtain rfl : last = "" := by
    by_contra hne
    rw [if_neg hne] at hlast
    cases hlast
  obtain ⟨hline, hrest⟩ := hspells.nil
  exact ⟨hline, by simp, [], "", rfl, hrest⟩

theorem Typed.cons (h : Typed input (answer :: answers)) :
    (readLine [] input).line = .text answer ∧ Typed (readLine [] input).rest answers := by
  have hline : Text.IsLine answer := h.lines answer List.mem_cons_self
  have hlines : ∀ later ∈ answers, Text.IsLine later := fun later hmem =>
    h.lines later (List.mem_cons_of_mem _ hmem)
  obtain ⟨ended, last, hanswers, hspells⟩ := h.spelled
  cases ended with
  | nil =>
    have hne : last ≠ "" := by
      rintro rfl
      cases hanswers
    rw [if_neg hne] at hanswers
    obtain ⟨rfl, rfl⟩ := List.cons.inj hanswers
    have hpieces : Text.pieces answer.toList = [answer.toList] :=
      Text.pieces_of_no_feed hline.no_feed (by simpa using hne)
    obtain ⟨hread, hrest, -⟩ := hspells.piece hpieces
    rw [Text.lineIn_of_isLine hline] at hread
    exact ⟨hread, hlines, [], "", rfl, hrest⟩
  | cons entry ended =>
    obtain ⟨first, b⟩ := entry
    obtain ⟨rfl, hlater⟩ := List.cons.inj hanswers
    obtain ⟨piece, hpieces, hpiece⟩ := Text.pieces_break hline b (Text.written ended last)
    obtain ⟨hread, hrest, -⟩ := hspells.piece hpieces
    rw [hpiece] at hread
    rw [Text.flatten_pieces] at hrest
    exact ⟨hread, hlines, ended, last, hlater, hrest⟩

/-! ## Prompts for texts -/

/-- Prompts for texts, one after the other: each has its placeholder, and a text to begin with. -/
def askTexts :
    List (Option String × Option String) → Terminal → List (Except String Reply) × Terminal
  | [], t => ([], t)
  | (placeholder, prefill) :: prompts, t =>
    let (reply, t) := t.ask (.text placeholder prefill)
    let (replies, t) := askTexts prompts t
    (reply :: replies, t)

def textQuestions (prompts : List (Option String × Option String)) : String :=
  String.join (prompts.map fun (placeholder, prefill) => (Prompt.text placeholder prefill).question)

def textReply (line : String) : Reply := if line = cancelMark then .cancelled else .submitted line

variable {t : Terminal} {placeholder prefill : Option String}
  {prompts further : List (Option String × Option String)}

theorem textQuestions_cons (prompt : Option String × Option String) :
    textQuestions (prompt :: prompts) =
      (Prompt.text prompt.1 prompt.2).question ++ textQuestions prompts := String.join_cons

theorem ask_text (placeholder prefill : Option String) (t : Terminal) :
    t.ask (.text placeholder prefill) =
      t.askFrom (.text placeholder prefill) (Prompt.text placeholder prefill).question :=
  congrArg (t.askFrom _) String.empty_append

theorem ask_text_of_line (hfits : t.output.Fits (Prompt.text placeholder prefill).question)
    (hline : (readLine [] t.input).line = .text answer) :
    t.ask (.text placeholder prefill) =
      (.ok (textReply answer), (t.after (Prompt.text placeholder prefill).question).nextLine.2) := by
  rw [ask_text, askFrom_of_fits hfits, hline]
  rfl

theorem ask_text_of_over (hfits : t.output.Fits (Prompt.text placeholder prefill).question)
    (hline : (readLine [] t.input).line = .over) :
    t.ask (.text placeholder prefill) =
      (.ok .cancelled, (t.after (Prompt.text placeholder prefill).question).nextLine.2) := by
  rw [ask_text, askFrom_of_over hfits hline]

theorem askTexts_of_over (htyped : Typed t.input []) (hfits : t.output.Fits (textQuestions prompts)) :
    (t.askTexts prompts).1 = prompts.map fun _ => .ok .cancelled := by
  induction prompts generalizing t with
  | nil => rfl
  | cons prompt prompts ih =>
    obtain ⟨placeholder, prefill⟩ := prompt
    rw [textQuestions_cons] at hfits
    obtain ⟨hfirst, hlater⟩ := Output.fits_append.mp hfits
    obtain ⟨hline, hrest⟩ := htyped.nil
    rw [askTexts, ask_text_of_over hfirst hline]
    dsimp only
    rw [ih hrest hlater]
    rfl

/-- The lines answer the prompts in their order. -/
theorem askTexts_eq (hlength : prompts.length = answers.length) (htyped : Typed t.input answers)
    (hfits : t.output.Fits (textQuestions (prompts ++ further))) :
    (t.askTexts (prompts ++ further)).1 =
      answers.map (fun answer => .ok (textReply answer)) ++ further.map fun _ => .ok .cancelled := by
  induction prompts generalizing t answers with
  | nil =>
    obtain rfl : answers = [] := List.length_eq_zero_iff.mp hlength.symm
    exact askTexts_of_over htyped hfits
  | cons prompt prompts ih =>
    obtain ⟨placeholder, prefill⟩ := prompt
    cases answers with
    | nil => cases hlength
    | cons answer answers =>
      rw [List.cons_append, textQuestions_cons] at hfits
      obtain ⟨hfirst, hlater⟩ := Output.fits_append.mp hfits
      obtain ⟨hline, hrest⟩ := htyped.cons
      rw [List.cons_append, askTexts, ask_text_of_line hfirst hline]
      dsimp only
      rw [ih (Nat.succ.inj hlength) hrest hlater]
      rfl

/-- Prompts for texts give the lines that are typed, just as they are and each to its prompt, and are
cancelled behind the last line. A line that is the mark instead cancels its own prompt and no other. -/
theorem askTexts_of_typed {answers : List String} (hmark : ∀ answer ∈ answers, answer ≠ cancelMark)
    {prompts : List (Option String × Option String)} (hlength : prompts.length = answers.length)
    (further : List (Option String × Option String)) {t : Terminal} (htyped : Typed t.input answers)
    (hfits : t.output.Fits (textQuestions (prompts ++ further))) :
    (t.askTexts (prompts ++ further)).1 =
      answers.map (fun answer => .ok (.submitted answer)) ++ further.map (fun _ => .ok .cancelled) ∧
    ∀ i < answers.length, ∀ t' : Terminal, Typed t'.input (answers.set i cancelMark) →
      t'.output.Fits (textQuestions (prompts ++ further)) →
      (t'.askTexts (prompts ++ further)).1 =
        (t.askTexts (prompts ++ further)).1.set i (.ok .cancelled) := by
  have hreplies := askTexts_eq hlength htyped hfits
  refine ⟨?_, fun i hi t' htyped' hfits' => ?_⟩
  · rw [hreplies]
    congr 1
    exact List.map_congr_left fun answer hmem => congrArg _ (if_neg (hmark answer hmem))
  · have hlength' : prompts.length = (answers.set i cancelMark).length := by
      rw [List.length_set, hlength]
    rw [askTexts_eq hlength' htyped' hfits', hreplies, List.map_set,
      List.set_append_left _ _ (by rwa [List.length_map])]
    rfl

/-- Blanks are kept, an empty line is an answer, and a carriage return inside a line is no break. -/
theorem askTexts_of_typed_blanks :
    let t : Terminal := { input := [.bytes (encode "  def \r\n\na".toList), .bytes (encode "\rb".toList)] }
    let t' : Terminal := { input := [.bytes (encode "  def \n:q\r\na\rb".toList)] }
    let prompts : List (Option String × Option String) :=
      [(none, none), (some "Pattern to add", none), (none, some "TODO"), (none, none)]
    (t.askTexts prompts).1 =
      [.ok (.submitted "  def "), .ok (.submitted ""), .ok (.submitted "a\rb"), .ok .cancelled] ∧
    (t'.askTexts prompts).1 =
      [.ok (.submitted "  def "), .ok .cancelled, .ok (.submitted "a\rb"), .ok .cancelled] := by
  intro t t' prompts
  have htyped : Typed t.input ["  def ", "", "a\rb"] := by
    refine ⟨?_, [("  def ", .returnFeed), ("", .feed)], "a\rb", rfl, rfl, by simp [t]⟩
    simp only [List.forall_mem_cons]
    exact ⟨⟨by decide, by decide⟩, ⟨by decide, by decide⟩, ⟨by decide, by decide⟩, by simp⟩
  have htyped' : Typed t'.input (["  def ", "", "a\rb"].set 1 cancelMark) := by
    refine ⟨?_, [("  def ", .feed), (":q", .returnFeed)], "a\rb", rfl, rfl, by simp [t']⟩
    simp only [List.set_cons_succ, List.set_cons_zero, List.forall_mem_cons]
    exact ⟨⟨by decide, by decide⟩, ⟨by decide, by decide⟩, ⟨by decide, by decide⟩, by simp⟩
  have hlength : (prompts.take 3).length = ["  def ", "", "a\rb"].length := rfl
  obtain ⟨hreplies, hcancelled⟩ := askTexts_of_typed (by decide) hlength [(none, none)] htyped
    (Output.fits_of_room rfl _)
  have hsecond := hcancelled 1 (by decide) t' htyped' (Output.fits_of_room rfl _)
  rw [hreplies] at hsecond
  exact ⟨hreplies, hsecond⟩

end Terminal

end AnchorOutline
