import AnchorOutline.Terminal.Input
import Mathlib

/-!
# Lines of a text that comes in

A text comes in as bytes, and these in pieces. Only the byte of a line feed looks like one, so what is
read as a line depends on the text alone: it is the part up to the next line feed, however the bytes are
cut.

* `Text.pieces`, `Text.lineIn` : the pieces of a text up to each line feed, and the lines in them;
* `Terminal.encode` : the bytes of a text, with that of a line feed just where the text has one;
* `Terminal.ahead` : the bytes that come in before reading fails or the input is over;
* `Terminal.readLine_of_feed` : a line that is complete in these bytes is read;
* `Terminal.Spells` : a text that comes in to its end;
* `Terminal.Spells.piece` : the line in its first piece is read, and the other pieces are left.
-/

namespace AnchorOutline

/-! ## Pieces of a text -/

namespace Text

/-- The pieces of a text up to each line feed, with it. What stands behind the last one is a piece of its
own, unless it is empty. -/
def pieces : List Char → List (List Char)
  | [] => []
  | c :: cs =>
    if c = '\n' then ['\n'] :: pieces cs
    else match pieces cs with
      | [] => [[c]]
      | piece :: rest => (c :: piece) :: rest

/-- The line in a piece. A carriage return before the line feed belongs to the break. -/
def lineIn (piece : List Char) : String :=
  String.ofList (if piece.getLast? = some '\n' then stripReturn piece.dropLast else piece)

variable {line : List Char}

theorem pieces_of_no_feed (hfeed : '\n' ∉ line) (hne : line ≠ []) : pieces line = [line] := by
  induction line with
  | nil => exact absurd rfl hne
  | cons c cs ih =>
    rw [List.mem_cons, not_or] at hfeed
    rw [pieces, if_neg (Ne.symm hfeed.1)]
    by_cases hnil : cs = []
    · subst hnil
      rfl
    · rw [ih hfeed.2 hnil]

theorem pieces_feed (hfeed : '\n' ∉ line) (after : List Char) :
    pieces (line ++ '\n' :: after) = (line ++ ['\n']) :: pieces after := by
  induction line with
  | nil => simp [pieces]
  | cons c cs ih =>
    rw [List.mem_cons, not_or] at hfeed
    rw [List.cons_append, pieces, if_neg (Ne.symm hfeed.1), ih hfeed.2, List.cons_append]

theorem lineIn_feed (line : List Char) : lineIn (line ++ ['\n']) = String.ofList (stripReturn line) := by
  simp [lineIn]

theorem lineIn_of_no_feed (hfeed : '\n' ∉ line) : lineIn line = String.ofList line := by
  have hlast : line.getLast? ≠ some '\n' := fun hlast => hfeed (List.mem_of_getLast? hlast)
  rw [lineIn, if_neg hlast]

/-- A text is empty, or its first line is its only one, or its first line has a break behind it. -/
theorem pieces_cases (text : List Char) :
    text = [] ∨ (text ≠ [] ∧ '\n' ∉ text) ∨ ∃ line after, text = line ++ '\n' :: after ∧ '\n' ∉ line := by
  by_cases hfeed : '\n' ∈ text
  · exact .inr (.inr (List.eq_append_cons_of_mem hfeed))
  · by_cases hne : text = []
    · exact .inl hne
    · exact .inr (.inl ⟨hne, hfeed⟩)

theorem flatten_pieces (text : List Char) : (pieces text).flatten = text := by
  induction text with
  | nil => rfl
  | cons c cs ih =>
    rw [pieces]
    split_ifs with hc
    · rw [List.flatten_cons, ih, hc]
      rfl
    · cases hpieces : pieces cs with
      | nil =>
        rw [hpieces] at ih
        rw [← ih]
        rfl
      | cons piece rest =>
        rw [hpieces] at ih
        rw [← ih]
        rfl

end Text

namespace Terminal

/-! ## Bytes of a text -/

def encode (text : List Char) : List UInt8 := text.flatMap String.utf8EncodeChar

@[simp] theorem encode_nil : encode [] = [] := rfl

@[simp] theorem encode_append (a b : List Char) : encode (a ++ b) = encode a ++ encode b :=
  List.flatMap_append

theorem encode_cons (c : Char) (cs : List Char) :
    encode (c :: cs) = String.utf8EncodeChar c ++ encode cs := rfl

theorem encode_feed (after : List Char) : encode ('\n' :: after) = lineFeed :: encode after := rfl

/-- The bytes of a text are those that it has in memory. -/
theorem encode_toList (s : String) : encode s.toList = s.toByteArray.data.toList := by
  rw [← String.utf8Encode_toList]
  simp [encode, List.utf8Encode]

theorem encode_eq_nil {text : List Char} : encode text = [] ↔ text = [] := by
  cases text with
  | nil => simp
  | cons c cs => simp [encode_cons, String.utf8EncodeChar_ne_nil]

theorem decodeText_encode (text : List Char) : decodeText (encode text) = some (String.ofList text) := by
  have hbytes : (⟨(encode text).toArray⟩ : ByteArray) = (String.ofList text).toByteArray := by
    have hencode := encode_toList (String.ofList text)
    rw [String.toList_ofList] at hencode
    rw [hencode, Array.toArray_toList]
  rw [decodeText, hbytes, String.fromUTF8?, dif_pos (String.ofList text).isValidUTF8]
  rfl

/-- The byte of a line feed is in no other character: their bytes are its number, or are too large. -/
theorem lineFeed_not_mem_utf8EncodeChar {c : Char} (h : c ≠ '\n') :
    lineFeed ∉ String.utf8EncodeChar c := by
  have hnumber : c.val.toNat ≠ 10 := fun heq => h (Char.ext (UInt32.toNat_inj.mp heq))
  unfold String.utf8EncodeChar lineFeed
  dsimp only
  split_ifs <;> simp only [List.mem_cons, List.not_mem_nil, or_false, not_or, ← UInt8.toNat_inj,
    UInt8.toNat_ofNat', UInt8.reduceToNat] <;> omega

theorem lineFeed_not_mem_encode {line : List Char} (hfeed : '\n' ∉ line) : lineFeed ∉ encode line := by
  simp only [encode, List.mem_flatMap, not_exists, not_and]
  intro c hc
  exact lineFeed_not_mem_utf8EncodeChar fun heq => hfeed (heq ▸ hc)

/-! ## Cutting -/

theorem cutLine_eq_none {bs : List UInt8} (h : lineFeed ∉ bs) : cutLine bs = none := by
  induction bs with
  | nil => rfl
  | cons b bs ih =>
    rw [List.mem_cons, not_or] at h
    rw [cutLine, if_neg (Ne.symm h.1), ih h.2, Option.map_none]

/-- A line feed in the first bytes is the first one of all. -/
theorem cutLine_append (bs more : List UInt8) : cutLine (bs ++ more) =
    match cutLine bs with
    | some (before, after) => some (before, after ++ more)
    | none => (cutLine more).map fun (before, after) => (bs ++ before, after) := by
  induction bs with
  | nil => simp [cutLine]
  | cons b bs ih =>
    rw [List.cons_append, cutLine, cutLine]
    by_cases hb : b = lineFeed
    · rw [if_pos hb, if_pos hb]
    · rw [if_neg hb, if_neg hb, ih]
      rcases cutLine bs with _ | ⟨before, after⟩
      · simp [Function.comp_def]
      · rfl

/-! ## Reading -/

/-- The bytes that come in before reading fails or the input is over. -/
def ahead : List Arrival → List UInt8
  | [] | .failure _ :: _ => []
  | .change _ :: rest => ahead rest
  | .bytes bs :: rest => bs ++ ahead rest

variable {input : List Arrival} {begun before after : List UInt8}

/-- A line that is complete in the bytes ahead is read, and the bytes behind it are left. -/
theorem readLine_of_cutLine (hbegun : cutLine begun = none)
    (h : cutLine (begun ++ ahead input) = some (before, after)) :
    (readLine begun input).line = lineOf before true ∧ ahead (readLine begun input).rest = after := by
  induction input generalizing begun with
  | nil =>
    rw [ahead, List.append_nil, hbegun] at h
    cases h
  | cons a rest ih =>
    cases a with
    | failure message =>
      rw [ahead, List.append_nil, hbegun] at h
      cases h
    | change c => exact ih hbegun h
    | bytes bs =>
      rw [ahead] at h
      rw [readLine]
      cases hcut : cutLine bs with
      | none =>
        have hmore : cutLine (begun ++ bs) = none := by rw [cutLine_append, hbegun, hcut]; rfl
        exact ih hmore (by rwa [List.append_assoc])
      | some cut =>
        obtain ⟨first, left⟩ := cut
        rw [cutLine_append, hbegun, cutLine_append, hcut] at h
        obtain ⟨rfl, rfl⟩ : begun ++ first = before ∧ left ++ ahead rest = after := by simpa using h
        exact ⟨rfl, rfl⟩

/-- Where reading never fails, what has no break behind it is the last line. -/
theorem readLine_of_no_feed (hreads : ∀ m, .failure m ∉ input)
    (h : lineFeed ∉ begun ++ ahead input) :
    (readLine begun input).line =
        (if begun ++ ahead input = [] then .over else lineOf (begun ++ ahead input) false) ∧
      (readLine begun input).rest = [] := by
  induction input generalizing begun with
  | nil => simp [readLine, ahead]
  | cons a rest ih =>
    have hrest : ∀ m, .failure m ∉ rest := fun m hm => hreads m (List.mem_cons_of_mem _ hm)
    cases a with
    | failure message => exact absurd List.mem_cons_self (hreads message)
    | change c => exact ih hrest h
    | bytes bs =>
      rw [ahead, ← List.append_assoc] at h ⊢
      have hcut : cutLine bs = none := cutLine_eq_none fun hmem => h (by simp [hmem])
      rw [readLine, hcut]
      exact ih hrest h

theorem failure_of_readLine {m : String} (h : .failure m ∈ (readLine begun input).rest) :
    .failure m ∈ input := by
  induction input generalizing begun with
  | nil => exact h
  | cons a rest ih =>
    cases a with
    | failure message => exact List.mem_cons_of_mem _ h
    | change c => exact List.mem_cons_of_mem _ (ih h)
    | bytes bs =>
      rw [readLine] at h
      cases hcut : cutLine bs with
      | none =>
        rw [hcut] at h
        exact List.mem_cons_of_mem _ (ih h)
      | some cut =>
        rw [hcut] at h
        exact List.mem_cons_of_mem _ (by simpa using h)

/-! ## Texts that come in -/

/-- What comes in is a text to its end, in whatever pieces, and reading never fails. -/
structure Spells (input : List Arrival) (text : List Char) : Prop where
  bytes : ahead input = encode text
  reads : ∀ m, .failure m ∉ input

variable {text line rest : List Char}

/-- A line that has its break behind it is read as it is, but for a carriage return before the break. -/
theorem readLine_of_feed (hfeed : '\n' ∉ line) {more : List UInt8}
    (h : ahead input = encode line ++ lineFeed :: more) :
    (readLine [] input).line = .text (String.ofList (Text.stripReturn line)) ∧
      ahead (readLine [] input).rest = more := by
  have hcut : cutLine ([] ++ ahead input) = some (encode line, more) := by
    rw [List.nil_append, h, cutLine_append, cutLine_eq_none (lineFeed_not_mem_encode hfeed)]
    simp [cutLine]
  obtain ⟨hline, hahead⟩ := readLine_of_cutLine rfl hcut
  refine ⟨?_, hahead⟩
  rw [hline, lineOf, decodeText_encode]
  simp

theorem Spells.nil (h : Spells input []) :
    (readLine [] input).line = .over ∧ Spells (readLine [] input).rest [] := by
  have hnone : lineFeed ∉ [] ++ ahead input := by simp [h.bytes]
  obtain ⟨hline, hover⟩ := readLine_of_no_feed h.reads hnone
  rw [hline, hover, h.bytes]
  exact ⟨rfl, rfl, by simp⟩

theorem Spells.piece (h : Spells input text) {piece : List Char} {later : List (List Char)}
    (hpieces : Text.pieces text = piece :: later) :
    (readLine [] input).line = .text (Text.lineIn piece) ∧
      Spells (readLine [] input).rest later.flatten ∧ Text.pieces later.flatten = later := by
  have hreads : ∀ m, .failure m ∉ (readLine [] input).rest := fun m hm =>
    h.reads m (failure_of_readLine hm)
  rcases Text.pieces_cases text with rfl | ⟨hne, hfeed⟩ | ⟨line, after, rfl, hfeed⟩
  · cases hpieces
  · rw [Text.pieces_of_no_feed hfeed hne] at hpieces
    obtain ⟨rfl, rfl⟩ := List.cons.inj hpieces
    have hnone : lineFeed ∉ [] ++ ahead input := by
      rw [List.nil_append, h.bytes]
      exact lineFeed_not_mem_encode hfeed
    obtain ⟨hline, hover⟩ := readLine_of_no_feed h.reads hnone
    rw [List.nil_append, h.bytes, if_neg (by simpa [encode_eq_nil] using hne), lineOf,
      decodeText_encode] at hline
    rw [Text.lineIn_of_no_feed hfeed]
    exact ⟨hline, ⟨by rw [hover]; rfl, hreads⟩, rfl⟩
  · rw [Text.pieces_feed hfeed] at hpieces
    obtain ⟨rfl, rfl⟩ := List.cons.inj hpieces
    have hbytes : ahead input = encode line ++ lineFeed :: encode after := by
      rw [h.bytes, encode_append, encode_feed]
    obtain ⟨hline, hahead⟩ := readLine_of_feed hfeed hbytes
    rw [Text.lineIn_feed, Text.flatten_pieces]
    exact ⟨hline, ⟨hahead, hreads⟩, rfl⟩

end Terminal

end AnchorOutline
