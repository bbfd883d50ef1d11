/-!
The target architectures for which the front-end knows the size of an address.
-/

namespace CompilerDriver

/-- A known target architecture. -/
inductive Target where
  | x64
  | a64
  | a32
  deriving DecidableEq, Repr

namespace Target

/-- Every known target. -/
def all : List Target :=
  [.x64, .a64, .a32]

/-- The name by which a command line asks for a target. -/
def name : Target → String
  | .x64 => "x64"
  | .a64 => "a64"
  | .a32 => "a32"

/-- The name of a target in a dump. -/
def label : Target → String
  | .x64 => "X64"
  | .a64 => "A64"
  | .a32 => "A32"

/-- The target of exactly this name. -/
def ofName? (text : String) : Option Target :=
  all.find? (·.name == text)

/-- The names of all targets, for diagnostics. -/
def knownNames : String :=
  ", ".intercalate (all.map name)

/-- The width of a data address in bits. -/
def pointerWidth : Target → Nat
  | .x64 | .a64 => 64
  | .a32 => 32

@[simp] theorem ofName?_name (target : Target) : ofName? target.name = some target := by
  cases target <;> decide

/-- Looking up a name finds exactly the target that bears it. -/
theorem ofName?_eq_some_iff {text : String} {target : Target} :
    ofName? text = some target ↔ text = target.name := by
  constructor
  · intro h
    have found := List.find?_some h
    exact (beq_iff_eq.1 found).symm
  · rintro rfl
    exact ofName?_name target

end Target

end CompilerDriver
