import CompilerDriver.CommandLine.Message
import CompilerDriver.CommandLine.ParseState

/-!
Loading the configuration from a whole argument vector, the name of the program first.  The name
matters only for the texts of usage errors.
-/

namespace CompilerDriver

/-- The name that usage texts give to a program: the file name of its path, if that is text. -/
def displayName (program : Option Bytes) : String :=
  match (program.bind Component.fileName?).bind Utf8.decode? with
  | some name => name
  | none => Help.programName

/-- The configuration that the arguments after the name of the program ask for. -/
def parse (arguments : List Bytes) : Except Fault Configuration := do
  let state ← ParseState.run {} arguments
  state.finish

/-- The configuration that an argument vector asks for, or what to print instead. -/
def load (arguments : List Bytes) : Except UsageError Configuration :=
  (parse arguments.tail).mapError fun fault =>
    fault.toUsageError (displayName arguments.head?)

/-- Two results of loading are equivalent when they are the same usage error, or configurations
that differ at most in the spelling of their paths. -/
def LoadEquivalent : Except UsageError Configuration → Except UsageError Configuration → Prop
  | .ok left, .ok right => left.Equivalent right
  | .error left, .error right => left = right
  | _, _ => False

instance : DecidableRel LoadEquivalent
  | .ok left, .ok right => inferInstanceAs (Decidable (left.Equivalent right))
  | .error left, .error right => inferInstanceAs (Decidable (left = right))
  | .ok _, .error _ | .error _, .ok _ => isFalse id

end CompilerDriver
