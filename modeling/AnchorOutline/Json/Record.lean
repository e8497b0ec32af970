import AnchorOutline.Json.Decoder

/-!
# Reading records

A record is written as an object, its fields in any order and further members between them, or as
an array of its fields in their order. A field is read at most once, under its name or under one
that it had before. While a record is read, its fields are collected in a draft.

* `Json.RecordField` : a field, and how it gets into the draft;
* `Json.RecordField.readObject`, `Json.RecordField.readArray` : the two ways of writing;
* `Json.Decoder.record` : a record in either of them.
-/

namespace AnchorOutline.Json

/-- A field of a record, for drafts of type `δ`. -/
structure RecordField (δ : Type) where
  name : String
  formerNames : List String
  required : Bool
  isGiven : δ → Bool
  read : Nat → δ → Reader δ

namespace RecordField

variable {δ : Type}

/-- A field that the draft keeps as an option. -/
def stored {τ : Type} (name : String) (formerNames : List String) (required : Bool)
    (get : δ → Option τ) (put : δ → Option τ → δ) (decoder : Decoder τ) : RecordField δ where
  name := name
  formerNames := formerNames
  required := required
  isGiven d := (get d).isSome
  read depth d cs := do
    let (x, cs) ← decoder depth cs
    return (put d (some x), cs)

def isCalled (f : RecordField δ) (key : String) : Bool :=
  f.name == key || f.formerNames.contains key

/-- Reads the member behind a key: a field into the draft, and anything else by `other`. -/
def readMember (fields : List (RecordField δ)) (other : String → δ → Reader δ) (depth : Nat)
    (key : String) (d : δ) : Reader δ := fun cs =>
  match fields.find? (·.isCalled key) with
  | none => do other key d (← readColon cs)
  | some f =>
    if f.isGiven d then .error (.unplaced (.duplicateField f.name) cs)
    else do f.read depth d (← readColon cs)

def readObject (fields : List (RecordField δ)) (other : String → δ → Reader δ) (depth : Nat)
    (start : δ) : Reader δ := fun cs =>
  inObject do
    let (d, cs) ← readMembers (readMember fields other depth) (cs.length + 1) true start cs
    match fields.find? fun f => f.required && !f.isGiven d with
    | some f => .error (.unplaced (.missingField f.name) cs)
    | none => return (d, cs)

/-- Reads fields in their order, the first one given being at `place`. -/
def readPositions (expected : String) (depth : Nat) :
    Nat → Bool → List (RecordField δ) → δ → Reader δ
  | _, _, [], d => fun cs => .ok (d, cs)
  | place, first, f :: fs, d => fun cs => do
    let (more, cs) ← nextItem first cs
    if more then
      let (d, cs) ← f.read depth d cs
      readPositions expected depth (place + 1) false fs d cs
    else if f.required then .error (.unplaced (.invalidLength place expected) cs)
    else readPositions expected depth (place + 1) first fs d cs

def readArray (title : String) (fields : List (RecordField δ)) (depth : Nat) (start : δ) :
    Reader δ :=
  fun cs =>
    let elements := if fields.length = 1 then "element" else "elements"
    inArray (readPositions s!"{title} with {fields.length} {elements}" depth 0 true fields start cs)

/-- Passes the value of a member that nobody asks for. -/
def ignore (_ : String) (d : δ) : Reader δ := fun cs => do return (d, ← skipValue cs)

end RecordField

namespace Decoder

variable {δ α : Type}

/-- A record that is written as an object only, further members being read by `other`. -/
def openRecord (title : String) (fields : List (RecordField δ))
    (other : Nat → String → δ → Reader δ) (start : δ) (finish : δ → α) : Decoder α :=
  fun depth cs =>
  match skipSpace cs with
  | '{' :: rest => do
    let depth ← deeper depth ('{' :: rest)
    let (d, rest) ← RecordField.readObject fields (other depth) depth start rest
    return (finish d, rest)
  | rest => failExpecting title rest

def record (title : String) (fields : List (RecordField δ)) (start : δ) (finish : δ → α) :
    Decoder α :=
  fun depth cs =>
    match skipSpace cs with
    | '[' :: rest => do
      let depth ← deeper depth ('[' :: rest)
      let (d, rest) ← RecordField.readArray title fields depth start rest
      return (finish d, rest)
    | rest => openRecord title fields (fun _ => RecordField.ignore) start finish depth rest

end Decoder

end AnchorOutline.Json
