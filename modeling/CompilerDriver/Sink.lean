import CompilerDriver.Text.Utf8

/-!
Where output goes.  A sink holds what was written to it and may have room for only so many bytes;
a write that does not fit leaves what fits and fails.
-/

namespace CompilerDriver

/-- Why a write failed. -/
inductive WriteFault where
  /-- A buffer took only a part of what was written. -/
  | incomplete
  /-- The device behind the sink is full. -/
  | noSpace
  deriving DecidableEq, Repr

/-- What is said about a failed write. -/
def WriteFault.message : WriteFault → String
  | .incomplete => "failed to write whole buffer"
  | .noSpace => "No space left on device (os error 28)"

/-- Writes one piece after the other in some way, up to the first that fails. -/
def writeEach {σ : Type} (write : σ → Bytes → σ × Option WriteFault) (state : σ) :
    List Bytes → σ × Option WriteFault
  | [] => (state, none)
  | piece :: rest =>
    match write state piece with
    | (next, none) => writeEach write next rest
    | (next, some fault) => (next, some fault)

/-- A receiver of bytes. -/
structure Sink where
  /-- How many more bytes fit, unless there is no limit. -/
  room : Option Nat
  /-- How a write fails that does not fit. -/
  refusal : WriteFault
  held : Bytes := []
  deriving DecidableEq, Repr

namespace Sink

/-- A sink that takes everything. -/
def unlimited : Sink := ⟨none, .incomplete, []⟩

/-- A buffer of a fixed size. -/
def buffer (size : Nat) : Sink := ⟨some size, .incomplete, []⟩

/-- A device on which nothing fits any more. -/
def exhausted : Sink := ⟨some 0, .noSpace, []⟩

/-- Writes as much as fits, and fails when something is left over. -/
def write (sink : Sink) (bytes : Bytes) : Sink × Option WriteFault :=
  match sink.room with
  | none => ({ sink with held := sink.held ++ bytes }, none)
  | some room =>
    ({ sink with room := some (room - bytes.length), held := sink.held ++ bytes.take room },
      if bytes.length ≤ room then none else some sink.refusal)

/-- Writes one piece after the other to a sink, up to the first that fails. -/
def writeAll (sink : Sink) (pieces : List Bytes) : Sink × Option WriteFault :=
  writeEach write sink pieces

/-- A sink without a limit takes every piece. -/
theorem writeAll_of_room_eq_none {sink : Sink} (hroom : sink.room = none) (pieces : List Bytes) :
    sink.writeAll pieces = ({ sink with held := sink.held ++ pieces.flatten }, none) := by
  unfold writeAll
  induction pieces generalizing sink with
  | nil => simp [writeEach]
  | cons piece rest ih => simp [writeEach, write, hroom, ih]

end Sink

end CompilerDriver
