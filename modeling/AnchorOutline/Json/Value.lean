/-!
# JSON values

* `Json` : the values; an object has its members in the order in which they are written;
* `Json.insertMember` : puts a member in its place among members in increasing order of their keys,
  the later of two with one key winning.
-/

namespace AnchorOutline

/-- A JSON value. A number is an integer of 64 bits, with or without sign, or else a double, which
is kept as its bits. -/
inductive Json where
  | null
  | bool (value : Bool)
  | integer (value : Int)
  | double (bits : UInt64)
  | string (value : String)
  | array (items : List Json)
  | object (members : List (String × Json))
  deriving Repr, Inhabited

namespace Json

/-- Puts a member among members in increasing order of their keys. -/
def insertMember (key : String) (value : Json) : List (String × Json) → List (String × Json)
  | [] => [(key, value)]
  | (k, v) :: rest =>
    if key < k then (key, value) :: (k, v) :: rest
    else if key = k then (k, value) :: rest
    else (k, v) :: insertMember key value rest

end Json

end AnchorOutline
