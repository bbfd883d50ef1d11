import CompilerDriver.Text.Split
import CompilerDriver.Text.Utf8

/-!
Paths by their components.  A path is kept exactly as it was given; what it names is the list of
its components, in which repeated and trailing slashes and inner `.` pieces do not show.

A path is a text, but the name of a running program is raw bytes, so components are defined over
any alphabet with a slash and a dot.
-/

namespace CompilerDriver

/-- An alphabet in which paths can be written. -/
class PathAlphabet (α : Type) where
  slash : α
  dot : α

instance : PathAlphabet Char := ⟨'/', '.'⟩

instance : PathAlphabet UInt8 := ⟨0x2F, 0x2E⟩

/-- One component of a path. -/
inductive Component (α : Type) where
  /-- The slash that an absolute path begins with. -/
  | root
  /-- The `.` that a relative path begins with. -/
  | current
  /-- A `..` piece. -/
  | parent
  | name (piece : List α)
  deriving DecidableEq, Repr

namespace Component

open PathAlphabet

variable {α : Type} [DecidableEq α] [PathAlphabet α]

/-- The component of one piece between slashes; empty pieces and `.` have none. -/
def ofPiece? (piece : List α) : Option (Component α) :=
  if piece = [] ∨ piece = [dot] then none
  else if piece = [dot, dot] then some .parent
  else some (.name piece)

/-- The component that the first piece of a relative path gives. -/
def ofFirst? (piece : List α) : Option (Component α) :=
  if piece = [dot] then some .current else ofPiece? piece

/-- The components of a path. -/
def list (path : List α) : List (Component α) :=
  match path with
  | [] => []
  | a :: rest =>
    if a = slash then .root :: (split slash rest).filterMap ofPiece?
    else
      match split slash path with
      | [] => []
      | first :: more => (ofFirst? first).toList ++ more.filterMap ofPiece?

/-- The last component of a path, when it is a name. -/
def fileName? (path : List α) : Option (List α) :=
  match (list path).getLast? with
  | some (.name piece) => some piece
  | _ => none

end Component

/-- A path, spelled as it was given. -/
structure Path where
  text : String
  deriving DecidableEq, Repr

namespace Path

/-- The components of a path. -/
def components (path : Path) : List (Component Char) :=
  Component.list path.text.toList

/-- Two spellings of a path are equivalent when they have the same components. -/
def Equivalent (left right : Path) : Prop :=
  left.components = right.components

instance : DecidableRel Equivalent :=
  fun left right => inferInstanceAs (Decidable (left.components = right.components))

end Path

end CompilerDriver
