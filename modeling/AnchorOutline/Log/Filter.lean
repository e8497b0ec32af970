import AnchorOutline.Log
import AnchorOutline.Text.Blank
import AnchorOutline.Text.Count
import AnchorOutline.Text.Lines

/-!
# Filters for the log

A filter is a list of rules with commas between them: a level, a target, or a target with a level.
A record is let through by the rule with the longest target that its own target begins with, if it
is no less urgent than the level of that rule. Rules about spans and their fields, which stand in
brackets, are left out.

* `LogFilter.parse?` : the filter in a text;
* `LogFilter.enables` : whether a record is let through;
* `LogFilter.filters` : this way to filter the log.
-/

namespace AnchorOutline

/-- How much is let through: nothing, or records from a level on. -/
abbrev Threshold := Option Level

/-- A rule for the records whose target begins with a text. -/
structure LogRule where
  target : String
  threshold : Threshold
  deriving Repr, DecidableEq

/-- Rules, the later of two for one target counting. -/
structure LogFilter where
  rules : List LogRule
  deriving Repr, DecidableEq

namespace LogFilter

/-! ## Reading -/

/-- The threshold that a name or a number stands for. -/
def threshold? (name : String) : Option Threshold :=
  match Text.parseCount? name with
  | some 0 => some none
  | some 1 => some (some .error)
  | some 2 => some (some .warn)
  | some 3 => some (some .info)
  | some 4 => some (some .debug)
  | some 5 => some (some .trace)
  | some _ => none
  | none =>
    match name.toLower with
    | "off" => some none
    | "error" => some (some .error)
    | "warn" => some (some .warn)
    | "info" => some (some .info)
    | "debug" => some (some .debug)
    | "trace" => some (some .trace)
    | _ => none

def startsRule (c : Char) : Bool :=
  c == '-' || c == ':' || c == '_' || Unicode.Property.alphabetic.contains c ||
    (Unicode.Category.union [.decimalNumber, .letterNumber, .otherNumber]).contains c

/-- The rule in a text: behind an equals sign there is a level, everything by default. Without
one the text is a level or else a target. -/
def parseRule? (cs : List Char) : Option LogRule :=
  match Text.trimChars cs with
  | [] => none
  | c :: _ =>
    if !startsRule c || cs.contains '[' then none
    else if cs.contains '=' then
      if Text.isBlank (cs.headD c) then none
      else
        let target := String.ofList (cs.takeWhile (· != '='))
        match (cs.dropWhile (· != '=')).tail with
        | [] => some ⟨target, some .trace⟩
        | level => (threshold? (String.ofList level)).map fun t => ⟨target, t⟩
    else
      match threshold? (String.ofList cs) with
      | some t => some ⟨"", t⟩
      | none => some ⟨String.ofList cs, some .trace⟩

def pieces (text : String) : List (List Char) :=
  (Text.split ',' text.toList).filter (· != [])

/-- A filter without rules lets errors through. -/
def ofRules (rules : List LogRule) : LogFilter :=
  if rules = [] then ⟨[⟨"", some .error⟩]⟩ else ⟨rules⟩

def parse? (text : String) : Option LogFilter := ((pieces text).mapM parseRule?).map ofRules

/-- The filter in a text, without what is no rule. -/
def readLoosely (text : String) : LogFilter := ofRules ((pieces text).filterMap parseRule?)

/-! ## Letting through -/

/-- The later of two rules that apply counts, unless the earlier one has a longer target. -/
def closer (best : Option LogRule) (rule : LogRule) : Option LogRule :=
  match best with
  | some b => if rule.target.length < b.target.length then some b else some rule
  | none => some rule

def ruleFor? (f : LogFilter) (target : String) : Option LogRule :=
  (f.rules.filter fun r => r.target.toList.isPrefixOf target.toList).foldl closer none

def enables (f : LogFilter) (record : LogRecord) : Bool :=
  match f.ruleFor? record.target with
  | some ⟨_, some level⟩ => record.level.rank ≤ level.rank
  | _ => false

def filters : LogFilters LogFilter := ⟨parse?, readLoosely, enables⟩

end LogFilter

end AnchorOutline
