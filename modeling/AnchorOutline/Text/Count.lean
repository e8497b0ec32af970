/-!
# Numbers in texts

* `parseCount?` : the number that a text of digits stands for.
-/

namespace AnchorOutline.Text

/-- The number that decimal digits stand for, behind a plus sign or not, if it has 64 bits. -/
def parseCount? (s : String) : Option Nat :=
  let digits := match s.toList with
    | '+' :: rest => rest
    | cs => cs
  if digits.isEmpty || !digits.all Char.isDigit then none
  else
    let n := digits.foldl (fun n c => 10 * n + (c.toNat - '0'.toNat)) 0
    if n < Nat.pow 2 64 then some n else none

end AnchorOutline.Text
