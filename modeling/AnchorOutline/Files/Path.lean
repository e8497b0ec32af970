import AnchorOutline.Text.Lines

/-!
# Paths

A path is read from a text: the names between its slashes, without empty ones and single dots.

* `Path.ofString`, `Path.toString` : from and to texts;
* `Path.parent?` : the directory that a path is in;
* `Path.withExtension` : the path beside it that has another extension.
-/

namespace AnchorOutline

/-- How the text of a path ends: in a name, in a slash behind a name, which only a directory may
have, or in a single dot, which stands for the directory before it. -/
inductive PathEnding where
  | name | slash | dot
  deriving Repr, DecidableEq

structure Path where
  absolute : Bool
  names : List String
  ending : PathEnding
  deriving Repr, DecidableEq

namespace Path

def ofString (s : String) : Path :=
  let pieces := Text.split '/' s.toList
  let parts := pieces.filter (· != [])
  { absolute := s.toList.head? == some '/'
    names := (parts.filter (· != ['.'])).map String.ofList
    ending :=
      if parts.getLast? = some ['.'] then .dot
      else if s != "" && pieces.getLast? = some [] then .slash
      else .name }

instance : ToString Path where
  toString p :=
    let ending := match p.ending with
      | .name => []
      | .slash => [""]
      | .dot => ["."]
    let joined := "/".intercalate (p.names ++ ending)
    if p.absolute then "/" ++ joined else joined

/-- Whether the text was empty: such a path leads nowhere. -/
def isEmpty (p : Path) : Bool := !p.absolute && p.names.isEmpty && p.ending == .name

/-- The directory that a path is in. The empty path and the root are in none. -/
def parent? (p : Path) : Option Path :=
  if p.names = [] then
    if p.absolute || p.ending == .name then none else some ⟨false, [], .name⟩
  else some ⟨p.absolute, p.names.dropLast, if p.absolute then .slash else .name⟩

/-- What stands before the last dot of a name, unless that is its first character. -/
def stem (name : List Char) : List Char :=
  match (name.reverse.dropWhile (· != '.')).tail.reverse with
  | [] => name
  | before => before

/-- The path with another extension of its last name, and the path itself where that is no name of
a file. -/
def withExtension (p : Path) (extension : String) : Path :=
  match p.names.getLast? with
  | none | some ".." => p
  | some name =>
    let changed := String.ofList (stem name.toList) ++ "." ++ extension
    ⟨p.absolute, p.names.dropLast ++ [changed], .name⟩

end Path

end AnchorOutline
