import CompilerDriver.Proofs.CommandLine.Action

/-!
What loading gives, apart from the text of its message.  The outcome is a configuration or the kind
of a usage error; it does not depend on the name of the program (`outcome_load`).
-/

namespace CompilerDriver

/-- A result of loading without the message of its error. -/
def outcome (result : Except UsageError Configuration) : Except UsageErrorKind Configuration :=
  result.mapError UsageError.kind

/-- Nothing was wrong with what was read; at most the input file is missing. -/
def Complete (result : Except UsageError Configuration) : Prop :=
  ∀ kind, outcome result = .error kind → kind = .missingRequired

variable {program : Bytes} {arguments : List Bytes} {config : Configuration}

theorem load_cons (program : Bytes) (arguments : List Bytes) :
    load (program :: arguments) = (parse arguments).mapError fun fault =>
      fault.toUsageError (displayName (some program)) := rfl

theorem load_eq_ok_iff :
    load (program :: arguments) = .ok config ↔ parse arguments = .ok config := by
  rw [load_cons, mapError_eq_ok_iff]

theorem load_eq_error_iff {fault : UsageError} :
    load (program :: arguments) = .error fault ↔
      ∃ cause, parse arguments = .error cause ∧
        cause.toUsageError (displayName (some program)) = fault := by
  rw [load_cons, mapError_eq_error_iff]

theorem outcome_load (program : Bytes) (arguments : List Bytes) :
    outcome (load (program :: arguments)) = (parse arguments).mapError Fault.kind := by
  rw [load_cons]
  cases parse arguments <;> rfl

theorem parse_eq_run_bind (arguments : List Bytes) :
    parse arguments = ({} : ParseState).run arguments >>= ParseState.finish := rfl

theorem parse_append (left right : List Bytes) :
    parse (left ++ right) = ({} : ParseState).run left >>= fun state =>
      state.run right >>= ParseState.finish := by
  rw [parse_eq_run_bind, ParseState.run_append, bind_assoc]

/-- What stops the reader at an argument stops it there whatever comes next. -/
theorem parse_of_step {before : List Bytes} {state : ParseState} {argument : Bytes} {fault : Fault}
    (hrun : ({} : ParseState).run before = .ok state) (hstep : state.step argument = .error fault)
    (after : List Bytes) : parse (before ++ argument :: after) = .error fault := by
  rw [parse_append, hrun]
  change state.run (argument :: after) >>= ParseState.finish = _
  rw [ParseState.run_cons, hstep]
  rfl

/-- A line whose state can be settled gives what the settled state does. -/
theorem parse_of_settled {state next : ParseState}
    (hrun : ({} : ParseState).run arguments = .ok state) (hsettled : state.settled = .ok next) :
    parse arguments = next.conclude := by
  rw [parse_eq_run_bind, hrun]
  change state.settled >>= ParseState.conclude = next.conclude
  rw [hsettled]
  rfl

/-- A line that lacks at most the input file is read to a state that can be settled. -/
theorem exists_settled_of_parse
    (hkind : ∀ fault, parse arguments = .error fault → fault.kind = .missingRequired) :
    ∃ state next, ({} : ParseState).run arguments = .ok state ∧ state.settled = .ok next := by
  rw [parse_eq_run_bind] at hkind
  cases hrun : ({} : ParseState).run arguments with
  | error fault =>
      have hmissing := hkind fault (bind_eq_error_iff.2 (Or.inl hrun))
      exact absurd hmissing (ParseState.kind_ne_of_run hrun)
  | ok state =>
      cases hsettled : state.settled with
      | error fault =>
          have hfinish : state.finish = .error fault := bind_eq_error_iff.2 (Or.inl hsettled)
          have hmissing := hkind fault (bind_eq_error_iff.2 (Or.inr ⟨state, hrun, hfinish⟩))
          rw [ParseState.kind_of_settled hsettled] at hmissing
          cases hmissing
      | ok next => exact ⟨state, next, rfl, hsettled⟩

/-- After a complete line there is a state that can be settled. -/
theorem exists_settled_of_complete (hcomplete : Complete (load (program :: arguments))) :
    ∃ state next, ({} : ParseState).run arguments = .ok state ∧ state.settled = .ok next := by
  apply exists_settled_of_parse
  intro fault hparse
  apply hcomplete
  rw [outcome_load, hparse]
  rfl

/-- A line is complete when it is read to a state that can be settled. -/
theorem complete_of_settled {state next : ParseState}
    (hrun : ({} : ParseState).run arguments = .ok state) (hsettled : state.settled = .ok next) :
    Complete (load (program :: arguments)) := by
  intro kind hkind
  rw [outcome_load, parse_of_settled hrun hsettled, mapError_eq_error_iff] at hkind
  obtain ⟨fault, hconclude, rfl⟩ := hkind
  exact ParseState.kind_of_conclude hconclude

end CompilerDriver
