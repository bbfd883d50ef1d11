import CompilerDriver.Proofs.CommandLine.Reading
import CompilerDriver.Proofs.CommandLine.Request

/-!
Which errors are final.  What stops the reader at an argument is reported whatever comes behind
that argument.  Only what is found at the end of a line can be overtaken, and besides a missing
input file that is a fault of the last setting, when its value was to come, or came, as an argument
of its own (`load_final`).
-/

namespace CompilerDriver

/-- An error of a line that is the error of every longer line. -/
def Final (line : List Bytes) (fault : UsageError) : Prop :=
  ∀ rest, load (line ++ rest) = .error fault

/-- A line is left open when each argument of it is taken, and its last option is a setting written
apart from its value, so that the end of the line has to settle it. -/
structure LeftOpen (arguments : List Bytes) : Prop where
  taken : ∃ state, ({} : ParseState).run arguments = .ok state
  apart : ∃ before last closing, arguments = before ++ Unsettled.arguments last ++ closing ∧
    (closing = [] ∨ closing = [Word.doubleDash])

namespace ParseState

theorem run_append_of_error {state : ParseState} {arguments : List Bytes} {fault : Fault}
    (hrun : state.run arguments = .error fault) (rest : List Bytes) :
    state.run (arguments ++ rest) = .error fault := by
  rw [run_append, hrun]
  rfl

/-- In every state there is an argument that is refused as unknown. -/
theorem exists_step_eq_stray (state : ParseState) :
    ∃ argument shown, state.step argument = .error (stray shown) := by
  refine ⟨Utf8.encode "-?", ?_⟩
  cases hclosed : state.terminated with
  | true => exact ⟨_, step_of_terminated hclosed _⟩
  | false =>
      have hasked : Action.ofArgument (Utf8.encode "-?") = .unknownLetter (Utf8.encode "?") := rfl
      rw [step_eq_apply hclosed, hasked]
      exact ⟨_, rfl⟩

end ParseState

section errors

variable {arguments : List Bytes} {state : ParseState} {cause : Fault}

theorem final_of_run (program : Bytes) (hrun : ({} : ParseState).run arguments = .error cause) :
    Final (program :: arguments) (cause.toUsageError (displayName (some program))) := by
  intro rest
  rw [List.cons_append]
  refine load_eq_error_iff.2 ⟨cause, ?_, rfl⟩
  rw [parse_eq_run_bind, ParseState.run_append_of_error hrun]
  rfl

/-- As long as every argument is taken, a line can still become one with an unknown flag. -/
theorem not_final_of_run (program : Bytes) (hrun : ({} : ParseState).run arguments = .ok state)
    (hkind : cause.kind ≠ .unknownFlag) :
    ¬Final (program :: arguments) (cause.toUsageError (displayName (some program))) := by
  intro hfinal
  obtain ⟨argument, shown, hstep⟩ := state.exists_step_eq_stray
  have hload := hfinal [argument]
  rw [List.cons_append] at hload
  obtain ⟨other, hparse, hsame⟩ := load_eq_error_iff.1 hload
  rw [parse_of_step hrun hstep] at hparse
  obtain rfl := Except.error.inj hparse
  exact hkind (congrArg UsageError.kind hsame).symm

/-- When the end of a line finds its last setting at fault, the line was left open. -/
theorem leftOpen_of_settled (hrun : ({} : ParseState).run arguments = .ok state)
    (hsettled : state.settled = .error cause) : LeftOpen arguments := by
  obtain ⟨reading, hreading, harguments⟩ := Reading.exists_reading_of_run hrun
  refine ⟨⟨state, hrun⟩, ?_⟩
  cases hunsettled : reading.unsettled with
  | none =>
      have hpending : state.pending = none := by rw [hreading.pending, hunsettled, Option.map_none]
      rw [ParseState.settled_of_pending_eq_none hpending] at hsettled
      cases hsettled
  | some last =>
      refine ⟨reading.settled.flatMap Spelling.arguments, last,
        if reading.terminated then [Word.doubleDash] else [], ?_, ?_⟩
      · rw [← harguments, Reading.arguments, Reading.flags, hunsettled, Option.toList_some,
          List.flatMap_singleton]
      · cases reading.terminated with
        | false => exact Or.inl rfl
        | true => exact Or.inr rfl

/-- The end of a line finds the last setting of an open line at fault, or the input file missing. -/
theorem kind_of_parse_of_run (hrun : ({} : ParseState).run arguments = .ok state)
    (hparse : parse arguments = .error cause) :
    cause.kind = .malformed ∧ LeftOpen arguments ∨ cause.kind = .missingRequired := by
  rw [parse_eq_run_bind, hrun] at hparse
  have hfinish : state.finish = .error cause := hparse
  rcases bind_eq_error_iff.1 hfinish with hsettled | ⟨last, _, hconclude⟩
  · exact Or.inl ⟨ParseState.kind_of_settled hsettled, leftOpen_of_settled hrun hsettled⟩
  · exact Or.inr (ParseState.kind_of_conclude hconclude)

end errors

/-- An unknown flag and a request for help or the version are final wherever they stand.  A
malformed argument is final too, unless the line was left open by a setting written apart from its
value; then it is not. -/
theorem load_final {line : List Bytes} {fault : UsageError} (hload : load line = .error fault) :
    (fault.kind = .unknownFlag ∨ fault.kind = .helpRequested ∨ fault.kind = .versionRequested →
        Final line fault) ∧
      (fault.kind = .malformed → (Final line fault ↔ ¬LeftOpen line.tail)) := by
  cases line with
  | nil =>
      have hkind : fault.kind = .missingRequired := by
        obtain rfl := Except.error.inj hload
        rfl
      rw [hkind]
      exact ⟨nofun, nofun⟩
  | cons program arguments =>
      obtain ⟨cause, hparse, rfl⟩ := load_eq_error_iff.1 hload
      cases hrun : ({} : ParseState).run arguments with
      | error stopped =>
          -- An argument was refused, and what stands behind it is never read.
          have hfinal := final_of_run program hrun
          rw [parse_eq_run_bind, hrun] at hparse
          obtain rfl := Except.error.inj hparse
          refine ⟨fun _ => hfinal, fun _ => iff_of_true hfinal ?_⟩
          rintro ⟨⟨state, htaken⟩, _⟩
          cases hrun.symm.trans htaken
      | ok state =>
          -- Every argument was taken, so the fault was found when the line ended.
          rw [Fault.kind_toUsageError]
          rcases kind_of_parse_of_run hrun hparse with ⟨hkind, hopen⟩ | hkind
          · have hunknown : cause.kind ≠ .unknownFlag := by
              rw [hkind]
              exact UsageErrorKind.noConfusion
            have hnot := not_final_of_run program hrun hunknown
            rw [hkind]
            exact ⟨nofun, fun _ => iff_of_false hnot (not_not_intro hopen)⟩
          · rw [hkind]
            exact ⟨nofun, nofun⟩

/-- A bad value is final once the next option has settled it, although that option is written apart
from its value itself; a closed line that holds the bad value back is still open. -/
theorem load_final_bad_value :
    let settled := ["cw", "--stop", "bad", "--arch", "x"].map Utf8.encode
    let held := ["cw", "--arch", "x", "--stop", "bad", "--"].map Utf8.encode
    let stray := ["cw", "--stop", "bad", "x"].map Utf8.encode
    (∃ fault, load settled = .error fault ∧ fault.kind = .malformed ∧ Final settled fault) ∧
      (∃ fault, load held = .error fault ∧ fault.kind = .malformed ∧ ¬Final held fault) ∧
      ∃ fault, load stray = .error fault ∧ fault.kind = .unknownFlag ∧ Final stray fault := by
  intro settled held stray
  have hsettled : outcome (load settled) = .error .malformed := rfl
  have hheld : outcome (load held) = .error .malformed := rfl
  have hstray : outcome (load stray) = .error .unknownFlag := rfl
  refine ⟨?_, ?_, ?_⟩
  · obtain ⟨fault, hload, hkind⟩ := mapError_eq_error_iff.1 hsettled
    refine ⟨fault, hload, hkind, ((load_final hload).2 hkind).2 ?_⟩
    rintro ⟨⟨state, htaken⟩, _⟩
    cases htaken
  · obtain ⟨fault, hload, hkind⟩ := mapError_eq_error_iff.1 hheld
    have hopen : LeftOpen held.tail :=
      ⟨⟨_, rfl⟩, ["--arch", "x"].map Utf8.encode,
        .held (.long (.phase .stop)) (Utf8.encode "bad") (by decide), [Word.doubleDash], rfl,
        Or.inr rfl⟩
    exact ⟨fault, hload, hkind, fun hfinal => ((load_final hload).2 hkind).1 hfinal hopen⟩
  · obtain ⟨fault, hload, hkind⟩ := mapError_eq_error_iff.1 hstray
    exact ⟨fault, hload, hkind, (load_final hload).1 (Or.inl hkind)⟩

end CompilerDriver
