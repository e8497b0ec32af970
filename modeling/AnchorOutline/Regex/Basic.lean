import AnchorOutline.Regex.Diagnostic
import AnchorOutline.Regex.Meaning
import AnchorOutline.Regex.Parser
import AnchorOutline.Regex.Search

/-!
# Regular expressions

* `compile` : a pattern as a program, or why it is refused;
* `findText?` : the text of the leftmost match of a program;
* `Engine` : how patterns find their matches, which the outline takes as given;
* `engine` : the engine of this library.
-/

namespace AnchorOutline.Regex

/-- Compiles a pattern. Faults of syntax come before those of meaning, and the size last. -/
def compile (pattern : String) : Except CompileError Program :=
  let meaning : Except Fault (Pattern × Flags) := do
    (← Tree.parse? pattern.toList).meaning {}
  match meaning with
  | .error fault => .error (.syntaxFault pattern fault)
  | .ok (p, _) =>
    match Program.ofPattern? p with
    | some program => .ok program
    | none => .error .tooLarge

def findText? (p : Program) (text : String) : Option String :=
  let chars := text.toList
  (p.find? chars).map fun (start, stop) => String.ofList ((chars.drop start).take (stop - start))

/-- A way to compile patterns and to find, in a text, what a compiled pattern matches first. -/
abbrev Engine := String → Except CompileError (String → Option String)

def engine : Engine := fun pattern => (compile pattern).map findText?

end AnchorOutline.Regex
