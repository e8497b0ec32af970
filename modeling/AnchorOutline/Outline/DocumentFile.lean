import AnchorOutline.Files.System
import AnchorOutline.Outline.Document

/-!
# Documents in files

* `DocumentFile.read` : the document of a file.
-/

namespace AnchorOutline

/-- A file that cannot be read as a text, with the reason. -/
structure UnreadableFile where
  path : String
  reason : FileError
  deriving Repr, DecidableEq

namespace UnreadableFile

def message (e : UnreadableFile) : String := s!"Cannot read {e.path}: {e.reason.message}"

end UnreadableFile

namespace DocumentFile

def read (path : String) : Action (Except UnreadableFile Document) := do
  match ← Action.readText (Path.ofString path) with
  | .ok text => return .ok (Document.ofPath path text)
  | .error e => return .error ⟨path, e⟩

end DocumentFile

end AnchorOutline
