/-!
# Output that may be closed

Output may have room for a number of bytes only. A text that does not fit is written as far as it
does, and from then on nothing can be written.

* `Terminal.Output.write` : writes a text, telling whether it fitted.
-/

namespace AnchorOutline.Terminal

/-- What was written so far, and how many bytes still fit; without a number all do. -/
structure Output where
  text : String := ""
  room : Option Nat := none
  deriving Repr, DecidableEq

/-- What happens to output that is closed. -/
def outputClosed : String := "output closed"

/-- The characters that fit into a number of bytes. One that is cut is shown as a replacement. -/
def fit : Nat → List Char → List Char
  | _, [] => []
  | room, c :: cs =>
    if c.utf8Size ≤ room then c :: fit (room - c.utf8Size) cs
    else if room = 0 then []
    else ['\uFFFD']

namespace Output

def write (o : Output) (text : String) : Bool × Output :=
  match o.room with
  | none => (true, { o with text := o.text ++ text })
  | some room =>
    if text.utf8ByteSize ≤ room then
      (true, { text := o.text ++ text, room := some (room - text.utf8ByteSize) })
    else (false, { text := o.text ++ String.ofList (fit room text.toList), room := some 0 })

end Output

end AnchorOutline.Terminal
