import CompilerDriver.Proofs.CommandLine.Outcome
import CompilerDriver.Proofs.CommandLine.Spelling

/-!
Stray arguments.  Once no setting waits for its value, an argument that is no flag ends the reading,
whatever follows it.  It is reported as an unknown flag and not as a malformed argument
(`load_stray`).
-/

namespace CompilerDriver

namespace ParseState

variable {state next : ParseState}

theorem pending_ne_of_settled (hsettled : state.settled = .ok next) (setting : Setting) :
    state.pending ≠ some ⟨setting, none⟩ := by
  intro hwaiting
  rw [settled, settle, hwaiting] at hsettled
  cases hsettled

theorem readPlain_of_settled (hsettled : state.settled = .ok next) (bytes : Bytes) :
    state.readPlain bytes = .error (stray (Utf8.lossy bytes)) := by
  cases hplain : state.readPlain bytes with
  | error fault => rw [eq_stray_of_readPlain hplain]
  | ok taken =>
      obtain ⟨setting, hwaiting, _⟩ := readPlain_eq_ok_iff.1 hplain
      exact absurd hwaiting (pending_ne_of_settled hsettled setting)

theorem run_stray (hopen : state.terminated = false) (hsettled : state.settled = .ok next)
    {argument : Bytes} (halone : Word.StandsAlone argument) (rest : List Bytes) :
    state.run (argument :: rest) = .error (stray (Utf8.lossy argument)) := by
  have hstep : state.step argument = .error (stray (Utf8.lossy argument)) := by
    rw [step_eq_apply hopen, Action.ofArgument_eq_iff.2 (.plain halone)]
    exact readPlain_of_settled hsettled argument
  rw [run_cons, hstep]
  rfl

end ParseState

/-- After a complete line, an argument that is no flag gives the error for an unknown flag that
shows it, whatever comes next. -/
theorem load_stray {program : Bytes} {before : List Bytes} (hdash : Word.doubleDash ∉ before)
    (hcomplete : Complete (load (program :: before))) {argument : Bytes}
    (halone : Word.StandsAlone argument) (after : List Bytes) :
    load (program :: (before ++ argument :: after)) =
        .error ((ParseState.stray (Utf8.lossy argument)).toUsageError
          (displayName (some program))) ∧
      outcome (load (program :: (before ++ argument :: after))) = .error .unknownFlag := by
  obtain ⟨state, next, hrun, hsettled⟩ := exists_settled_of_complete hcomplete
  have hopen : state.terminated = false := ParseState.terminated_of_run rfl hrun hdash
  have hparse : parse (before ++ argument :: after) =
      .error (ParseState.stray (Utf8.lossy argument)) := by
    rw [parse_append, hrun]
    change state.run (argument :: after) >>= ParseState.finish = _
    rw [ParseState.run_stray hopen hsettled halone]
    rfl
  constructor
  · rw [load_cons, hparse]
    rfl
  · rw [outcome_load, hparse]
    rfl

namespace StrayWitness

def program : Bytes := Utf8.encode "frontend"

def before : List Bytes := ["-F", "main.cw"].map Utf8.encode

def argument : Bytes := Utf8.encode "extra.cw"

theorem complete_before : Complete (load (program :: before)) := by
  intro kind hkind
  cases hkind

theorem load_stray_argument :
    Complete (load (program :: before)) ∧
      outcome (load (program :: (before ++ [argument]))) = .error .unknownFlag :=
  ⟨complete_before, (load_stray (by decide) complete_before (by decide) []).2⟩

/-- So a stray argument is not always malformed. -/
theorem not_forall_stray_malformed :
    ¬∀ (program : Bytes) (before : List Bytes) (argument : Bytes) (after : List Bytes),
      Word.doubleDash ∉ before → Complete (load (program :: before)) →
        Word.StandsAlone argument →
          outcome (load (program :: (before ++ argument :: after))) = .error .malformed := by
  intro hmalformed
  have hkind : outcome (load (program :: (before ++ [argument]))) = .error .malformed :=
    hmalformed program before argument [] (by decide) complete_before (by decide)
  cases hkind

end StrayWitness

end CompilerDriver
