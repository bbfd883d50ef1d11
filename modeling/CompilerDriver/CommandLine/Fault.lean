import CompilerDriver.CommandLine.Flag

/-!
What can stop the reading of a command line, as causes.  The texts that describe them are made
elsewhere, from the cause and the name of the program.
-/

namespace CompilerDriver

/-- The usage line that goes with a fault. -/
inductive Usage where
  /-- Any flags, and the required one. -/
  | overview
  /-- The required flag, and the flags that were given. -/
  | given (flags : List Flag)
  /-- One configuring flag out of all, after an informational flag if there is one. -/
  | choice (lead : Option Flag)
  deriving DecidableEq, Repr

/-- What stops the reading of a command line. -/
inductive Fault where
  /-- No input file; these flags were given. -/
  | missingFiles (given : List Flag)
  /-- An argument that has no place here, and a flag that may have been meant. -/
  | unexpectedArgument (shown : String) (similar : Option Flag) (usage : Usage)
  /-- A value for a flag that takes none. -/
  | unexpectedValue (value : String) (flag : Flag) (usage : Usage)
  | repeated (flag : Flag)
  /-- A value that has to be text and is not. -/
  | invalidUtf8
  | valueRequired (setting : Setting)
  /-- A value that names no phase. -/
  | invalidPhase (slot : PhaseSlot) (value : String)
  | help
  | version
  deriving DecidableEq, Repr

end CompilerDriver
