import CompilerDriver.CommandLine.Fault
import CompilerDriver.Configuration

/-!
The values that a command line has given so far.  Each occurrence of a flag brings one value, which
is checked when it is stored; when an input file is there, the draft is a configuration.
-/

namespace CompilerDriver

/-- One complete use of a configuring flag. -/
inductive Occurrence where
  | switch (which : Switch)
  | setting (which : Setting) (value : Bytes)
  deriving DecidableEq, Repr

/-- The flag that an occurrence uses. -/
def Occurrence.flag : Occurrence → Flag
  | .switch which => .switch which
  | .setting which _ => .setting which

/-- The values given so far. -/
structure Draft where
  shakeTree : Bool := false
  stdlib : Option String := none
  arch : Option String := none
  emitIr : Bool := false
  files : Option String := none
  phases : PhaseControl := .empty
  deriving DecidableEq, Repr

namespace Draft

/-- A value that has to be text. -/
def readText (value : Bytes) : Except Fault String :=
  match Utf8.decode? value with
  | some text => .ok text
  | none => .error .invalidUtf8

/-- A value that has to be the name of a phase. -/
def readPhase (slot : PhaseSlot) (value : Bytes) : Except Fault Phase :=
  match (Utf8.decode? value).bind Phase.ofName? with
  | some phase => .ok phase
  | none => .error (.invalidPhase slot (Utf8.lossy value))

/-- The draft with the value of one more occurrence. -/
def store (draft : Draft) : Occurrence → Except Fault Draft
  | .switch .shakeTree => .ok { draft with shakeTree := true }
  | .switch .emitIr => .ok { draft with emitIr := true }
  | .setting .stdlib value => do
    let text ← readText value
    return { draft with stdlib := some text }
  | .setting .arch value => do
    let text ← readText value
    return { draft with arch := some text }
  | .setting .files value => do
    let text ← readText value
    return { draft with files := some text }
  | .setting (.phase slot) value => do
    let phase ← readPhase slot value
    return { draft with phases := draft.phases.set slot (some phase) }

/-- The configuration of a draft that has an input file, with defaults for what was not given. -/
def configuration? (draft : Draft) : Option Configuration :=
  draft.files.map fun files =>
    { shakeTree := draft.shakeTree
      stdlibPath := ⟨draft.stdlib.getD Configuration.defaultStdlib⟩
      arch := draft.arch.getD Configuration.defaultArch
      emitIr := draft.emitIr
      sourceFiles := ⟨files⟩
      phases := draft.phases }

theorem readText_eq_ok_iff {value : Bytes} {text : String} :
    readText value = .ok text ↔ value = Utf8.encode text := by
  rw [readText, ← Utf8.decode?_eq_some_iff]
  cases Utf8.decode? value <;> simp

theorem readPhase_eq_ok_iff {slot : PhaseSlot} {value : Bytes} {phase : Phase} :
    readPhase slot value = .ok phase ↔ value = Utf8.encode phase.name := by
  rw [readPhase, ← Utf8.decode?_eq_some_iff]
  cases Utf8.decode? value with
  | none => simp
  | some text =>
    rw [Option.bind_some, Option.some_inj, ← Phase.ofName?_eq_some_iff]
    cases Phase.ofName? text <;> simp

end Draft

end CompilerDriver
