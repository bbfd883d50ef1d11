import CompilerDriver.Proofs.CommandLine.Grammar
import CompilerDriver.Proofs.CommandLine.Request
import CompilerDriver.Proofs.CommandLine.Unknown

/-!
The argument `--`.  At the end of a line it changes nothing, even when the last setting still waits
for its value.  Any argument behind it is refused as an unknown flag as soon as it is reached, so
what such a line gives does not depend on what that argument looks like, nor on the end of the line
before it (`load_doubleDash`).
-/

namespace CompilerDriver

open Terminal

namespace ParseState

/-- Nothing is taken behind `--`. -/
theorem run_doubleDash_cons {state : ParseState} (hopen : state.terminated = false)
    (argument : Bytes) (after : List Bytes) :
    state.run (Word.doubleDash :: argument :: after) = .error (stray (Utf8.lossy argument)) := by
  rw [run_cons, step_doubleDash hopen]
  change run { state with terminated := true } (argument :: after) = _
  rw [run_cons, step_of_terminated rfl]
  rfl

end ParseState

section behind

variable {before : List Bytes}

/-- A line with an argument behind `--` fails where the line before it does, and else at that
argument. -/
theorem parse_behind_doubleDash (hdash : Word.doubleDash ∉ before) (argument : Bytes)
    (after : List Bytes) :
    parse (before ++ Word.doubleDash :: argument :: after) =
      ({} : ParseState).run before >>= fun _ => .error (ParseState.stray (Utf8.lossy argument)) := by
  rw [parse_append]
  apply bind_congr_of_ok
  intro state hrun
  have hopen : state.terminated = false := ParseState.terminated_of_run rfl hrun hdash
  rw [ParseState.run_doubleDash_cons hopen]
  rfl

/-- A line that goes on behind `--` is never taken. -/
theorem exists_parse_behind_doubleDash (hdash : Word.doubleDash ∉ before) (argument : Bytes)
    (after : List Bytes) :
    ∃ cause, parse (before ++ Word.doubleDash :: argument :: after) = .error cause := by
  rw [parse_behind_doubleDash hdash]
  cases ({} : ParseState).run before with
  | error cause => exact ⟨cause, rfl⟩
  | ok state => exact ⟨_, rfl⟩

/-- A request is served before `--` or not at all. -/
theorem parse_behind_doubleDash_eq_request_iff (hdash : Word.doubleDash ∉ before)
    (argument : Bytes) (after : List Bytes) (request : Request) :
    parse (before ++ Word.doubleDash :: argument :: after) = .error request.fault ↔
      parse before = .error request.fault := by
  rw [parse_behind_doubleDash hdash, parse_eq_run_bind, bind_eq_error_iff, bind_eq_error_iff]
  have hstray : ParseState.stray (Utf8.lossy argument) ≠ request.fault := by
    cases request <;> exact Fault.noConfusion
  simp [hstray, ParseState.finish_ne_request]

end behind

/-- Closing a line at its end changes nothing.  A line that goes on behind `--` is refused: it asks
for help or the version only if the line before `--` does, and if that line is complete, then the
first argument behind `--` is reported as unknown, and shown unless it holds control characters. -/
theorem load_doubleDash (program : Bytes) {before : List Bytes}
    (hdash : Word.doubleDash ∉ before) :
    load (program :: (before ++ [Word.doubleDash])) = load (program :: before) ∧
      ∀ argument after,
        let line := program :: (before ++ Word.doubleDash :: argument :: after)
        (∃ fault, load line = .error fault) ∧
          (∀ request : Request, outcome (load line) = .error request.kind ↔
            outcome (load (program :: before)) = .error request.kind) ∧
          (Complete (load (program :: before)) →
            ∃ message, load line = .error ⟨.unknownFlag, message⟩ ∧
              ∀ text, argument = Utf8.encode text → (∀ c ∈ text.toList, ¬IsControl c) →
                BeginsWith (unexpectedLine text) message) := by
  constructor
  · rw [load_cons, load_cons, parse_append_doubleDash hdash]
  · intro argument after line
    refine ⟨?_, ?_, ?_⟩
    · obtain ⟨cause, hparse⟩ := exists_parse_behind_doubleDash hdash argument after
      exact ⟨_, load_eq_error_iff.2 ⟨cause, hparse, rfl⟩⟩
    · intro request
      rw [outcome_eq_request_iff, outcome_eq_request_iff]
      exact parse_behind_doubleDash_eq_request_iff hdash argument after request
    · intro hcomplete
      -- A complete line takes all its arguments, so the reader gets to the one behind `--`.
      obtain ⟨state, _, hrun, _⟩ := exists_settled_of_complete hcomplete
      have hparse := parse_behind_doubleDash hdash argument after
      rw [hrun] at hparse
      refine ⟨_, load_eq_error_iff.2 ⟨_, hparse, rfl⟩, ?_⟩
      rintro text rfl hcontrol
      rw [Utf8.lossy_encode]
      exact Fault.beginsWith_unexpectedLine _ (plain_of_not_isControl hcontrol) _ _

/-- A line that waits for a value is closed, and help behind `--` is an unknown argument. -/
theorem load_doubleDash_help :
    let waiting := ["-F", "a", "--stop"].map Utf8.encode
    let complete := ["--stop", "after_typing"].map Utf8.encode
    let line := [] :: (complete ++ Word.doubleDash :: ["--help", "--"].map Utf8.encode)
    (Word.doubleDash ∉ waiting ∧
        load ([] :: (waiting ++ [Word.doubleDash])) = load ([] :: waiting)) ∧
      Word.doubleDash ∉ complete ∧ Complete (load ([] :: complete)) ∧
        ∃ message, load line = .error ⟨.unknownFlag, message⟩ ∧
          BeginsWith (unexpectedLine "--help") message := by
  intro waiting complete line
  have hwaiting : Word.doubleDash ∉ waiting := by decide
  have hdash : Word.doubleDash ∉ complete := by decide
  have hcomplete : Complete (load ([] :: complete)) := by
    intro kind hkind
    cases hkind
    rfl
  obtain ⟨_, _, hrefused⟩ :=
    (load_doubleDash [] hdash).2 (Utf8.encode "--help") [Utf8.encode "--"]
  obtain ⟨message, hload, hshown⟩ := hrefused hcomplete
  exact ⟨⟨hwaiting, (load_doubleDash [] hwaiting).1⟩, hdash, hcomplete, message, hload,
    hshown "--help" rfl (by simp [IsControl])⟩

end CompilerDriver
