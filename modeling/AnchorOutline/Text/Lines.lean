/-!
# Lines

A text is cut at its line feeds, so a final line feed leaves an empty last line and the empty text
is one empty line. One carriage return at the end of a line belongs to the line break.

* `split`, `join` : cutting a text at a character and joining the pieces with it;
* `stripReturn` : a line without a final carriage return;
* `lines` : the lines of a text.
-/

namespace AnchorOutline.Text

/-- The pieces of a text between the places where a character stands. -/
def split (separator : Char) : List Char → List (List Char)
  | [] => [[]]
  | c :: cs =>
    if c = separator then [] :: split separator cs
    else match split separator cs with
      | [] => [[c]]
      | piece :: rest => (c :: piece) :: rest

def join (separator : Char) (pieces : List (List Char)) : List Char :=
  [separator].intercalate pieces

/-- A line without one carriage return at its end. -/
def stripReturn (line : List Char) : List Char :=
  if line.getLast? = some '\r' then line.dropLast else line

def lines (text : String) : List String :=
  (split '\n' text.toList).map fun line => String.ofList (stripReturn line)

theorem split_ne_nil (separator : Char) (cs : List Char) : split separator cs ≠ [] := by
  induction cs with
  | nil => simp [split]
  | cons c cs ih =>
    unfold split
    split
    · simp
    · split <;> simp

end AnchorOutline.Text
