import AnchorOutline.Unicode.Property

/-!
# Blanks at the ends of a text

* `trim` : a text without the white space at both ends.
-/

namespace AnchorOutline.Text

def isBlank (c : Char) : Bool := Unicode.Property.whiteSpace.contains c

/-- Characters without the white space at both ends. -/
def trimChars (cs : List Char) : List Char :=
  ((cs.dropWhile isBlank).reverse.dropWhile isBlank).reverse

def trim (s : String) : String := String.ofList (trimChars s.toList)

end AnchorOutline.Text
