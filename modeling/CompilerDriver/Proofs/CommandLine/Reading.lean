import CompilerDriver.Proofs.CommandLine.Recording
import CompilerDriver.Proofs.CommandLine.Spelling

/-!
What the reader knows after any arguments that it read without a fault.  A reading cuts these
arguments into the spellings that are settled, the setting that is not, and `--`; the state has
recorded just what the settled spellings say (`Reading.Describes`).  Each step keeps this up, so
every state that can be reached has a reading (`exists_reading_of_run`).
-/

namespace CompilerDriver

/-- A setting that is not settled yet, as it is written. -/
inductive Unsettled where
  /-- Its value is still to come. -/
  | waiting (opener : Opener)
  /-- Its value has come and was not checked. -/
  | held (opener : Opener) (value : Bytes) (alone : Word.StandsAlone value)

namespace Unsettled

def arguments : Unsettled → List Bytes
  | .waiting opener => [opener.argument]
  | .held opener value _ => [opener.argument, value]

def pending : Unsettled → Pending
  | .waiting opener => ⟨opener.setting, none⟩
  | .held opener value _ => ⟨opener.setting, some value⟩

end Unsettled

/-- The arguments that were read, cut into what they stand for. -/
structure Reading where
  settled : List Spelling
  unsettled : Option Unsettled
  terminated : Bool

namespace Reading

variable {reading : Reading} {state next : ParseState}

def start : Reading := ⟨[], none, false⟩

/-- The arguments before `--`. -/
def flags (reading : Reading) : List Bytes :=
  reading.settled.flatMap Spelling.arguments ++
    reading.unsettled.toList.flatMap Unsettled.arguments

def arguments (reading : Reading) : List Bytes :=
  reading.flags ++ if reading.terminated then [Word.doubleDash] else []

/-- A reading describes a state that recorded its settled spellings and keeps the unsettled one. -/
structure Describes (reading : Reading) (state : ParseState) : Prop where
  recorded : Recorded (reading.settled.map Spelling.occurrence) state
  pending : state.pending = reading.unsettled.map Unsettled.pending
  terminated : state.terminated = reading.terminated

theorem describes_start : start.Describes {} := ⟨recorded_nil, rfl, rfl⟩

/-- A state that can be settled has recorded every spelling when it is. -/
theorem Describes.settled (hreading : reading.Describes state) (hsettled : state.settled = .ok next) :
    ∃ spellings : List Spelling, spellings.flatMap Spelling.arguments = reading.flags ∧
      Recorded (spellings.map Spelling.occurrence) next := by
  have hpending := hreading.pending
  have hsettle := ParseState.settled_eq_ok_iff.1 hsettled
  unfold ParseState.settle at hsettle
  rw [hpending] at hsettle
  rcases hunsettled : reading.unsettled with _ | ⟨opener | ⟨opener, value, halone⟩⟩
  · rw [hunsettled] at hsettle
    cases hsettle
    exact ⟨reading.settled, by simp [flags, hunsettled], hreading.recorded⟩
  · rw [hunsettled] at hsettle
    cases hsettle
  · rw [hunsettled] at hsettle
    refine ⟨reading.settled ++ [.separate opener value halone], ?_, ?_⟩
    · simp [flags, hunsettled, Spelling.arguments, Unsettled.arguments]
    · have hrecord : ParseState.orFault
          (ParseState.record { state with pending := none } (.setting opener.setting value)) =
            .ok next := ParseState.orFault_eq_ok_iff.2 hsettle
      rw [List.map_append]
      exact (hreading.recorded.update none state.terminated).record hrecord

/-- Before `--`, only flags were read. -/
theorem Describes.arguments_eq_flags (hreading : reading.Describes state)
    (hopen : state.terminated = false) : reading.arguments = reading.flags := by
  have hterminated : reading.terminated = false := hreading.terminated.symm.trans hopen
  simp [arguments, hterminated]

theorem Describes.take (hreading : reading.Describes state) (hopen : state.terminated = false)
    {option : Compact} (htake : state.take option.occurrence = .ok next) :
    ∃ longer : Reading, longer.Describes next ∧
      longer.arguments = reading.flags ++ [option.argument] := by
  obtain ⟨middle, hsettled, hrecord⟩ := ParseState.take_eq_ok_iff.1 htake
  obtain ⟨spellings, hspellings, hmiddle⟩ := hreading.settled hsettled
  refine ⟨⟨spellings ++ [.compact option], none, false⟩, ⟨?_, ?_, ?_⟩, ?_⟩
  · rw [List.map_append]
    exact hmiddle.record hrecord
  · exact ParseState.pending_of_take htake
  · exact (ParseState.terminated_of_take htake).trans hopen
  · rw [← hspellings]
    simp [arguments, flags, Spelling.arguments]

theorem Describes.await (hreading : reading.Describes state) (hopen : state.terminated = false)
    {opener : Opener} (hawait : state.await opener.setting = .ok next) :
    ∃ longer : Reading, longer.Describes next ∧
      longer.arguments = reading.flags ++ [opener.argument] := by
  obtain ⟨middle, hsettled, rfl⟩ := ParseState.await_eq_ok_iff.1 hawait
  obtain ⟨spellings, hspellings, hmiddle⟩ := hreading.settled hsettled
  refine ⟨⟨spellings, some (.waiting opener), false⟩, ⟨?_, rfl, ?_⟩, ?_⟩
  · exact hmiddle.update (some ⟨opener.setting, none⟩) middle.terminated
  · exact (ParseState.terminated_of_settled hsettled).trans hopen
  · rw [← hspellings]
    simp [arguments, flags, Unsettled.arguments]

theorem Describes.readPlain (hreading : reading.Describes state)
    (hopen : state.terminated = false) {value : Bytes} (halone : Word.StandsAlone value)
    (hplain : state.readPlain value = .ok next) :
    ∃ longer : Reading, longer.Describes next ∧ longer.arguments = reading.flags ++ [value] := by
  obtain ⟨setting, hpending, rfl⟩ := ParseState.readPlain_eq_ok_iff.1 hplain
  rw [hreading.pending] at hpending
  rcases hunsettled : reading.unsettled with _ | ⟨opener | ⟨opener, held, hheld⟩⟩
  · -- Nothing waits, so the value would be stray.
    simp [hunsettled] at hpending
  · simp only [hunsettled, Option.map_some, Unsettled.pending, Option.some_inj] at hpending
    obtain ⟨rfl, -⟩ := Pending.mk.inj hpending
    refine ⟨⟨reading.settled, some (.held opener value halone), false⟩, ⟨?_, rfl, hopen⟩, ?_⟩
    · exact hreading.recorded.update (some ⟨opener.setting, some value⟩) state.terminated
    · simp [arguments, flags, hunsettled, Unsettled.arguments]
  · simp [hunsettled, Unsettled.pending] at hpending

/-- One more argument gives one more piece of the reading. -/
theorem Describes.step (hreading : reading.Describes state) {argument : Bytes}
    (hstep : state.step argument = .ok next) :
    ∃ longer : Reading, longer.Describes next ∧
      longer.arguments = reading.arguments ++ [argument] := by
  obtain ⟨hopen, hcases⟩ := ParseState.step_eq_ok_iff.1 hstep
  rw [hreading.arguments_eq_flags hopen]
  rcases hcases with ⟨hasked, rfl⟩ | ⟨occurrence, hasked, htake⟩ | ⟨setting, hasked, hawait⟩ |
    ⟨bytes, hasked, hplain⟩
  · cases Action.ofArgument_eq_iff.1 hasked
    exact ⟨{ reading with terminated := true },
      ⟨hreading.recorded.update state.pending true, hreading.pending, rfl⟩, rfl⟩
  · cases Action.ofArgument_eq_iff.1 hasked with
    | take option => exact hreading.take hopen htake
  · cases Action.ofArgument_eq_iff.1 hasked with
    | await opener => exact hreading.await hopen hawait
  · cases Action.ofArgument_eq_iff.1 hasked with
    | plain halone => exact hreading.readPlain hopen halone hplain

theorem Describes.run (hreading : reading.Describes state) {arguments : List Bytes}
    (hrun : state.run arguments = .ok next) :
    ∃ longer : Reading, longer.Describes next ∧
      longer.arguments = reading.arguments ++ arguments := by
  induction arguments generalizing reading state with
  | nil =>
      cases hrun
      exact ⟨reading, hreading, (List.append_nil _).symm⟩
  | cons argument rest ih =>
      obtain ⟨middle, hstep, hrest⟩ := bind_eq_ok_iff.1 hrun
      obtain ⟨longer, hlonger, harguments⟩ := hreading.step hstep
      obtain ⟨longest, hlongest, hall⟩ := ih hlonger hrest
      refine ⟨longest, hlongest, ?_⟩
      rw [hall, harguments, List.append_assoc, List.singleton_append]

/-- Every state that is reached without a fault has a reading of the arguments that led to it. -/
theorem exists_reading_of_run {arguments : List Bytes}
    (hrun : ({} : ParseState).run arguments = .ok state) :
    ∃ reading : Reading, reading.Describes state ∧ reading.arguments = arguments :=
  describes_start.run hrun

end Reading

end CompilerDriver
