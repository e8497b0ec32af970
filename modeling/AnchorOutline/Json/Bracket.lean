import AnchorOutline.Json.Token

/-!
# Arrays and objects

The brackets and commas of arrays and objects, around readers for what stands between them.

* `Json.nextItem`, `Json.nextKey` : what comes before an item or the value of a member;
* `Json.readItems`, `Json.readMembers` : all items or members;
* `Json.inArray`, `Json.inObject` : the ends of the brackets. A failure that concerns the whole
  bracket gets its place there.
-/

namespace AnchorOutline.Json

/-- The depth that a text may be nested to, one more than the brackets that may be open. -/
def depthLimit : Nat := 128

def closeArray (cs : List Char) : Except Failure (List Char) :=
  match skipSpace cs with
  | [] => failAt .eofInList []
  | ']' :: rest => .ok rest
  | ',' :: rest =>
    let rest := skipSpace rest
    if rest.head? = some ']' then failNext .trailingComma rest
    else failNext .trailingCharacters rest
  | rest => failNext .trailingCharacters rest

def closeObject (cs : List Char) : Except Failure (List Char) :=
  match skipSpace cs with
  | [] => failAt .eofInObject []
  | '}' :: rest => .ok rest
  | ',' :: rest => failNext .trailingComma (',' :: rest)
  | rest => failNext .trailingCharacters rest

/-- What is unread after an attempt to leave an array. -/
def afterArrayEnd (cs : List Char) : List Char :=
  match skipSpace cs with
  | ']' :: rest => rest
  | ',' :: rest => skipSpace rest
  | rest => rest

/-- What is unread after an attempt to leave an object. -/
def afterObjectEnd (cs : List Char) : List Char :=
  match skipSpace cs with
  | '}' :: rest => rest
  | rest => rest

/-- Reads the inside of an array and leaves it. A failure without a place gets the place reached
by leaving. -/
def inArray {α : Type} (inside : Except Failure (α × List Char)) :
    Except Failure (α × List Char) :=
  match inside with
  | .ok (a, rest) => do return (a, ← closeArray rest)
  | .error (.unplaced cause rest) => failAt cause (afterArrayEnd rest)
  | .error f => .error f

/-- Reads the inside of an object and leaves it, in the same way. -/
def inObject {α : Type} (inside : Except Failure (α × List Char)) :
    Except Failure (α × List Char) :=
  match inside with
  | .ok (a, rest) => do return (a, ← closeObject rest)
  | .error (.unplaced cause rest) => failAt cause (afterObjectEnd rest)
  | .error f => .error f

/-- The rest before the next item of an array, or nothing at its end. -/
def nextItem (first : Bool) (cs : List Char) : Except Failure (Bool × List Char) :=
  match skipSpace cs with
  | [] => failAt .eofInList []
  | ']' :: rest => .ok (false, ']' :: rest)
  | c :: rest =>
    if first then .ok (true, c :: rest)
    else if c = ',' then
      match skipSpace rest with
      | [] => failAt .eofInValue []
      | ']' :: rest => failNext .trailingComma (']' :: rest)
      | rest => .ok (true, rest)
    else failNext .expectedListCommaOrEnd (c :: rest)

/-- The next key of an object with the rest behind it, or nothing at its end. -/
def nextKey (first : Bool) (cs : List Char) : Except Failure (Option String × List Char) :=
  match skipSpace cs with
  | [] => failAt .eofInObject []
  | '}' :: rest => .ok (none, '}' :: rest)
  | c :: rest =>
    if first then
      if c = '"' then do
        let (key, rest) ← readString rest
        return (some key, rest)
      else failNext .keyMustBeString (c :: rest)
    else if c = ',' then
      match skipSpace rest with
      | [] => failAt .eofInValue []
      | '"' :: rest => do
        let (key, rest) ← readString rest
        return (some key, rest)
      | '}' :: rest => failNext .trailingComma ('}' :: rest)
      | rest => failNext .keyMustBeString rest
    else failNext .expectedObjectCommaOrEnd (c :: rest)

def readColon (cs : List Char) : Except Failure (List Char) :=
  match skipSpace cs with
  | [] => failAt .eofInObject []
  | ':' :: rest => .ok rest
  | rest => failNext .expectedColon rest

/-- The items of an array by a reader for one. Every item takes a character, so the length of the
text bounds their number. -/
def readItems {α : Type} (item : Reader α) : Nat → Bool → Reader (List α)
  | 0, _, cs => .ok ([], cs)
  | n + 1, first, cs => do
    let (more, cs) ← nextItem first cs
    if !more then return ([], cs)
    let (x, cs) ← item cs
    let (xs, cs) ← readItems item n false cs
    return (x :: xs, cs)

/-- The members of an object by a step that takes a key, what was read so far, and the rest behind
the key. -/
def readMembers {σ : Type} (member : String → σ → Reader σ) : Nat → Bool → σ → Reader σ
  | 0, _, s, cs => .ok (s, cs)
  | n + 1, first, s, cs => do
    let (key?, cs) ← nextKey first cs
    match key? with
    | none => return (s, cs)
    | some key =>
      let (s, cs) ← member key s cs
      readMembers member n false s cs

end AnchorOutline.Json
