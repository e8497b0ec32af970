import AnchorOutline.Files.System
import AnchorOutline.Text.Lines

/-!
# Lines of input

Input arrives in pieces of bytes; between them reading may fail, and others may change files. A line
is put together from the pieces up to a line feed or the end.

* `Terminal.Arrival` : one thing that comes in;
* `Terminal.readLine` : the next line, what others changed until it was complete, and what is left;
* `Terminal.weight_readLine_lt` : every line leaves less input, unless the input is over.
-/

namespace AnchorOutline.Terminal

/-! ## Arrivals -/

inductive Change where
  | write (path : Path) (bytes : ByteArray)
  | delete (path : Path)

/-- The tree after a change; one that cannot be made is none. -/
def Change.apply (t : Tree) : Change → Tree
  | write p bytes => (t.write p bytes).toOption.getD t
  | delete p => (t.remove p).toOption.getD t

/-- One thing that comes in. -/
inductive Arrival where
  | bytes (bs : List UInt8)
  | failure (message : String)
  | change (c : Change)

/-! ## Lines -/

inductive Line where
  | text (s : String)
  | failed (message : String)
  | over
  deriving Repr, DecidableEq

def lineFeed : UInt8 := 10

/-- The bytes up to a line feed and those behind it. -/
def cutLine : List UInt8 → Option (List UInt8 × List UInt8)
  | [] => none
  | b :: bs =>
    if b = lineFeed then some ([], bs)
    else (cutLine bs).map fun (before, after) => (b :: before, after)

def decodeText (bs : List UInt8) : Option String := String.fromUTF8? ⟨bs.toArray⟩

/-- The line that bytes stand for. A carriage return before a line feed belongs to the break. -/
def lineOf (bs : List UInt8) (hasBreak : Bool) : Line :=
  match decodeText bs with
  | none => .failed FileError.notText.message
  | some s => .text (if hasBreak then String.ofList (Text.stripReturn s.toList) else s)

/-- What a line came to: the changes made by others meanwhile, the line, and the input left. -/
structure Reading where
  changes : List Change
  line : Line
  rest : List Arrival

/-- Reads a line that begins with the given bytes. A failure loses them. -/
def readLine (begun : List UInt8) : List Arrival → Reading
  | [] => ⟨[], if begun = [] then .over else lineOf begun false, []⟩
  | .failure message :: rest => ⟨[], .failed message, rest⟩
  | .change c :: rest =>
    let r := readLine begun rest
    { r with changes := c :: r.changes }
  | .bytes bs :: rest =>
    match cutLine bs with
    | none => readLine (begun ++ bs) rest
    | some (before, after) => ⟨[], lineOf (begun ++ before) true, .bytes after :: rest⟩

/-! ## How much is left -/

def Arrival.weight : Arrival → Nat
  | bytes bs => bs.length + 1
  | failure _ | change _ => 1

/-- How much input there is. -/
def weight : List Arrival → Nat
  | [] => 0
  | a :: rest => a.weight + weight rest

theorem length_of_cutLine {bs before after : List UInt8} (h : cutLine bs = some (before, after)) :
    after.length < bs.length := by
  induction bs generalizing before after with
  | nil => simp [cutLine] at h
  | cons b bs ih =>
    unfold cutLine at h
    split at h
    · simp only [Option.some.injEq, Prod.mk.injEq] at h
      simp [h.2]
    · simp only [Option.map_eq_some_iff, Prod.mk.injEq] at h
      obtain ⟨⟨x, y⟩, hxy, -, rfl⟩ := h
      exact Nat.lt_succ_of_lt (ih hxy)

/-- What a line leaves is never more than there was, and less if any input was left. -/
theorem weight_readLine (begun : List UInt8) (input : List Arrival) :
    weight (readLine begun input).rest ≤ weight input ∧
      (input ≠ [] → weight (readLine begun input).rest < weight input) := by
  induction input generalizing begun with
  | nil => simp [readLine]
  | cons a rest ih =>
    cases a with
    | failure m => simp [readLine, weight, Arrival.weight]
    | change c =>
      have := (ih begun).1
      simp only [readLine, weight, Arrival.weight] at this ⊢
      omega
    | bytes bs =>
      unfold readLine
      cases h : cutLine bs with
      | none =>
        have := (ih (begun ++ bs)).1
        simp only [weight, Arrival.weight] at this ⊢
        omega
      | some p =>
        obtain ⟨before, after⟩ := p
        have := length_of_cutLine h
        simp only [weight, Arrival.weight]
        omega

theorem weight_readLine_lt {input : List Arrival} (h : (readLine [] input).line ≠ .over) :
    weight (readLine [] input).rest < weight input := by
  refine (weight_readLine [] input).2 fun e => h ?_
  simp [e, readLine]

end AnchorOutline.Terminal
