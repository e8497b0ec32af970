/-!
# Log records

What the program reports about itself, apart from its results. Which records are let through is for
others to say.

* `LogRecord` : one record;
* `LogFilters` : a way to read filters from texts, and what they let through.
-/

namespace AnchorOutline

/-- How urgent a record is, most urgent first. -/
inductive Level where
  | error | warn | info | debug | trace
  deriving Repr, DecidableEq

namespace Level

/-- The place of a level, from one for the most urgent. -/
def rank : Level → Nat
  | error => 1
  | warn => 2
  | info => 3
  | debug => 4
  | trace => 5

def label : Level → String
  | error => "ERROR"
  | warn => "WARN"
  | info => "INFO"
  | debug => "DEBUG"
  | trace => "TRACE"

end Level

/-- One record: how urgent, from which part of the program, and what it says. -/
structure LogRecord where
  level : Level
  target : String
  message : String
  deriving Repr, DecidableEq

namespace LogRecord

def line (r : LogRecord) : String := s!"{r.level.label} {r.target}: {r.message}"

end LogRecord

/-- A way to filter the log. Some texts are filters; the others can still be read by leaving out what
is wrong in them. -/
structure LogFilters (Filter : Type) where
  parse? : String → Option Filter
  readLoosely : String → Filter
  enables : Filter → LogRecord → Bool

end AnchorOutline
