import CompilerDriver.Phase.Control

/-!
Editing phase requests step by step.  An editor holds a control and a saved copy of one; a step is
given in words, and a step that makes no sense changes nothing (`step_of_error`).
-/

namespace CompilerDriver

/-- A step of an editing session. -/
inductive PhaseEdit where
  | set (slot : PhaseSlot) (phase : Phase)
  | clear (slot : PhaseSlot)
  /-- Clear all slots. -/
  | reset
  /-- Remember the control as it is. -/
  | save
  /-- Go back to the remembered control. -/
  | restore
  deriving DecidableEq, Repr

/-- Why words are no step. -/
inductive PhaseEditFault where
  | unknownPhase (fault : Phase.Unknown)
  | unknownSlot
  | unknownStep
  deriving DecidableEq, Repr

/-- What is wrong with the words of a step. -/
def PhaseEditFault.message : PhaseEditFault → String
  | .unknownPhase fault => fault.message
  | .unknownSlot => "unknown slot"
  | .unknownStep => "unknown step"

namespace PhaseEdit

/-- The slot of this name, or the complaint that there is none. -/
def slotOf (name : String) : Except PhaseEditFault PhaseSlot :=
  match PhaseSlot.ofName? name with
  | some slot => .ok slot
  | none => .error .unknownSlot

/-- The step that the words ask for.  A bad phase is noticed before a bad slot. -/
def parse : List String → Except PhaseEditFault PhaseEdit
  | ["set", slot, phase] => do
    let phase ← (Phase.parse phase).mapError .unknownPhase
    let slot ← slotOf slot
    return .set slot phase
  | ["clear", slot] => do
    let slot ← slotOf slot
    return .clear slot
  | ["reset"] => .ok .reset
  | ["save"] => .ok .save
  | ["restore"] => .ok .restore
  | _ => .error .unknownStep

end PhaseEdit

/-- A control under change, and the copy that was saved last. -/
structure PhaseEditor where
  control : PhaseControl := .empty
  saved : PhaseControl := .empty
  deriving DecidableEq, Repr

namespace PhaseEditor

/-- The editor after a step. -/
def apply (editor : PhaseEditor) : PhaseEdit → PhaseEditor
  | .set slot phase => { editor with control := editor.control.set slot (some phase) }
  | .clear slot => { editor with control := editor.control.set slot none }
  | .reset => { editor with control := .empty }
  | .save => { editor with saved := editor.control }
  | .restore => { editor with control := editor.saved }

/-- The editor after the step that the words ask for, with the complaint if they ask for none. -/
def step (editor : PhaseEditor) (words : List String) : PhaseEditor × Option PhaseEditFault :=
  match PhaseEdit.parse words with
  | .ok edit => (editor.apply edit, none)
  | .error fault => (editor, some fault)

/-- The editor and the complaint after each step of a session. -/
def run (editor : PhaseEditor) :
    List (List String) → List (PhaseEditor × Option PhaseEditFault)
  | [] => []
  | words :: rest => editor.step words :: run (editor.step words).1 rest

/-- Words that are no step change nothing. -/
theorem step_of_error {editor : PhaseEditor} {words : List String} {fault : PhaseEditFault}
    (h : PhaseEdit.parse words = .error fault) : editor.step words = (editor, some fault) := by
  rw [step, h]

@[simp] theorem length_run (editor : PhaseEditor) (session : List (List String)) :
    (editor.run session).length = session.length := by
  induction session generalizing editor with
  | nil => rfl
  | cons words rest ih => rw [run, List.length_cons, List.length_cons, ih]

end PhaseEditor

end CompilerDriver
