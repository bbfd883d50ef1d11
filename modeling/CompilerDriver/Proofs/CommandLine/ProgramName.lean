import CompilerDriver.Proofs.CommandLine.Outcome
import CompilerDriver.Proofs.Path.FileName

/-!
The name of the program.  It matters for the texts of usage errors alone, and for these only by the
file name in its path (`load_program_name`).
-/

namespace CompilerDriver

open PathAlphabet

theorem displayName_eq_of_fileName? {left right : Bytes}
    (hname : Component.fileName? left = Component.fileName? right) :
    displayName (some left) = displayName (some right) := by
  rw [displayName, displayName, Option.bind_some, Option.bind_some, hname]

theorem load_eq_of_displayName {left right : Bytes}
    (hname : displayName (some left) = displayName (some right)) (arguments : List Bytes) :
    load (left :: arguments) = load (right :: arguments) := by
  rw [load_cons, load_cons, hname]

/-- Two programs load the same line alike but for their names in a message, and alike altogether
when they are shown under one name.  Slashes behind the path of a program, and a directory in front
of it, do not matter, and a program without a path is shown under the driver's own name. -/
theorem load_program_name (left right : Bytes) (arguments : List Bytes) :
    outcome (load (left :: arguments)) = outcome (load (right :: arguments)) ∧
      (displayName (some left) = displayName (some right) →
        load (left :: arguments) = load (right :: arguments)) ∧
      load ((left ++ [slash]) :: arguments) = load (left :: arguments) ∧
      (∀ name, Component.fileName? left = some name →
        load ((right ++ slash :: left) :: arguments) = load (left :: arguments)) ∧
      load [] = load [Utf8.encode "frontend"] := by
  refine ⟨?_, ?_, ?_, ?_, ?_⟩
  · rw [outcome_load, outcome_load]
  · intro hname
    exact load_eq_of_displayName hname arguments
  · apply load_eq_of_displayName
    exact displayName_eq_of_fileName? (Component.fileName?_append_slash left)
  · intro name hname
    apply load_eq_of_displayName
    apply displayName_eq_of_fileName?
    rw [Component.fileName?_append_slash_cons hname, hname]
  · have hname : displayName none = displayName (some (Utf8.encode "frontend")) := by
      decide +kernel
    rw [load_cons, load, List.head?_nil, hname]
    rfl

/-- A name that is not text, a path without a file name, and a path below a directory. -/
theorem load_program_name_spellings :
    let line := [Utf8.encode "--files"]
    let broken : Bytes := [0xFF]
    let parent := Utf8.encode "bin/.."
    let relative := Utf8.encode "./cw"
    displayName (some broken) = displayName (some parent) ∧
      load (broken :: line) = load (parent :: line) ∧
      Component.fileName? relative = some (Utf8.encode "cw") ∧
      load ((Utf8.encode "/opt" ++ slash :: relative) :: line) = load (relative :: line) := by
  intro line broken parent relative
  have hshown : displayName (some broken) = displayName (some parent) := by decide +kernel
  have hname : Component.fileName? relative = some (Utf8.encode "cw") := by decide +kernel
  obtain ⟨_, hsame, _⟩ := load_program_name broken parent line
  obtain ⟨_, _, _, hbelow, _⟩ := load_program_name relative (Utf8.encode "/opt") line
  exact ⟨hshown, hsame hshown, hname, hbelow _ hname⟩

end CompilerDriver
