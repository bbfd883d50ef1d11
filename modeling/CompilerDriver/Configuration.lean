import CompilerDriver.Path
import CompilerDriver.Phase.Control
import CompilerDriver.Target

/-!
The resolved configuration of the driver.  Every field holds what the command line gave or its
default, so later stages have nothing left to check.
-/

namespace CompilerDriver

/-- A resolved configuration. -/
structure Configuration where
  /-- Remove unreachable functions. -/
  shakeTree : Bool
  /-- The directory of the standard library. -/
  stdlibPath : Path
  /-- The target architecture as it was given, known or not. -/
  arch : String
  /-- Halt after the intermediate representation is generated. -/
  emitIr : Bool
  /-- The input source. -/
  sourceFiles : Path
  phases : PhaseControl
  deriving DecidableEq, Repr

namespace Configuration

/-- The standard library's path when none is given. -/
def defaultStdlib : String := "./Lib"

/-- The architecture when none is given. -/
def defaultArch : String := "x64"

/-- The text of a truth value in everything that is printed. -/
def switchText (on : Bool) : String :=
  if on then "true" else "false"

/-- The known target that the architecture names. -/
def target? (config : Configuration) : Option Target :=
  Target.ofName? config.arch

/-- Two configurations are equivalent when they differ at most in the spelling of their paths. -/
structure Equivalent (left right : Configuration) : Prop where
  shakeTree : left.shakeTree = right.shakeTree
  stdlibPath : left.stdlibPath.Equivalent right.stdlibPath
  arch : left.arch = right.arch
  emitIr : left.emitIr = right.emitIr
  sourceFiles : left.sourceFiles.Equivalent right.sourceFiles
  phases : left.phases = right.phases

theorem equivalent_iff {left right : Configuration} :
    left.Equivalent right ↔
      left.shakeTree = right.shakeTree ∧ left.stdlibPath.Equivalent right.stdlibPath ∧
        left.arch = right.arch ∧ left.emitIr = right.emitIr ∧
        left.sourceFiles.Equivalent right.sourceFiles ∧ left.phases = right.phases :=
  ⟨fun ⟨h₁, h₂, h₃, h₄, h₅, h₆⟩ => ⟨h₁, h₂, h₃, h₄, h₅, h₆⟩,
    fun ⟨h₁, h₂, h₃, h₄, h₅, h₆⟩ => ⟨h₁, h₂, h₃, h₄, h₅, h₆⟩⟩

instance : DecidableRel Equivalent :=
  fun _ _ => decidable_of_iff' _ equivalent_iff

end Configuration

end CompilerDriver
