import CompilerDriver.Text.Case
import CompilerDriver.Text.Numeral

/-!
Levels of log lines, and thresholds that let lines through up to a level.
-/

namespace CompilerDriver.Log

/-- How much a log line matters, from what matters most. -/
inductive Level where
  | error
  | warn
  | info
  | debug
  | trace
  deriving DecidableEq, Repr

namespace Level

/-- How many levels matter more. -/
def depth : Level → Nat
  | .error => 0
  | .warn => 1
  | .info => 2
  | .debug => 3
  | .trace => 4

/-- The name of a level in a log line, as wide as the widest one. -/
def heading : Level → String
  | .error => "ERROR"
  | .warn => " WARN"
  | .info => " INFO"
  | .debug => "DEBUG"
  | .trace => "TRACE"

end Level

/-- The last level that is let through, if any is. -/
abbrev Threshold := Option Level

namespace Threshold

/-- Every threshold, from the quietest; the place of each is its number. -/
def all : List Threshold :=
  [none, some .error, some .warn, some .info, some .debug, some .trace]

/-- The word for a threshold. -/
def word : Threshold → String
  | none => "off"
  | some .error => "error"
  | some .warn => "warn"
  | some .info => "info"
  | some .debug => "debug"
  | some .trace => "trace"

/-- The threshold that a text names: by its number, or by its word, whatever the case of the
letters. -/
def ofText? (text : String) : Option Threshold :=
  match numeral? text.toList with
  | some number => all[number]?
  | none => all.find? fun threshold => threshold.word == foldCase text

/-- Whether a line of this level is let through. -/
def admits (threshold : Threshold) (level : Level) : Bool :=
  match threshold with
  | none => false
  | some last => level.depth ≤ last.depth

end Threshold

end CompilerDriver.Log
