import CompilerDriver.Proofs.CommandLine.Grammar

/-!
The order of options does not matter.  Two lines of the same spellings record the same occurrences,
and whether these can be recorded, what the draft then holds, and the kind of fault when they cannot
are all read off the occurrences as a collection.
-/

namespace CompilerDriver

variable {left right : List Occurrence} {state other : ParseState}

/-- States that have recorded the same occurrences have the same draft. -/
theorem Recorded.draft_eq_of_perm (hleft : Recorded left state) (hright : Recorded right other)
    (hperm : left.Perm right) : state.draft = other.draft := by
  apply Draft.eq_of_holds_iff
  intro occurrence
  rw [hleft.holds, hright.holds]
  exact hperm.mem_iff

theorem Recorded.conclude_kind_eq_of_perm (hleft : Recorded left state)
    (hright : Recorded right other) (hperm : left.Perm right) :
    state.conclude.mapError Fault.kind = other.conclude.mapError Fault.kind := by
  unfold ParseState.conclude
  rw [hleft.draft_eq_of_perm hright hperm]
  cases other.draft.configuration? with
  | none => rfl
  | some config => rfl

/-- What occurrences give does not depend on their order, up to the text of a fault. -/
theorem recordAll_kind_eq_of_perm (hperm : left.Perm right) :
    (({} : ParseState).recordAll left >>= ParseState.conclude).mapError Fault.kind =
      (({} : ParseState).recordAll right >>= ParseState.conclude).mapError Fault.kind := by
  cases hleft : ({} : ParseState).recordAll left with
  | ok state =>
      have hstate := ParseState.recorded_of_recordAll hleft
      obtain ⟨other, hright⟩ :=
        ParseState.exists_recordAll_iff.2 (hstate.recordable.perm hperm)
      rw [hright]
      exact hstate.conclude_kind_eq_of_perm (ParseState.recorded_of_recordAll hright) hperm
  | error fault =>
      cases hright : ({} : ParseState).recordAll right with
      | ok other =>
          have hother := ParseState.recorded_of_recordAll hright
          obtain ⟨state, hstate⟩ :=
            ParseState.exists_recordAll_iff.2 (hother.recordable.perm hperm.symm)
          rw [hleft] at hstate
          cases hstate
      | error another =>
          -- The two lines may fail at different places, but both for a malformed argument.
          change Except.error fault.kind = Except.error another.kind
          rw [ParseState.kind_of_recordAll hleft, ParseState.kind_of_recordAll hright]

/-- Reordering the options of a line changes neither its configuration nor the kind of its error. -/
theorem outcome_load_perm (program : Bytes) {written reordered : List Spelling}
    (hperm : written.Perm reordered) :
    outcome (load (program :: written.flatMap Spelling.arguments)) =
      outcome (load (program :: reordered.flatMap Spelling.arguments)) := by
  rw [outcome_load, outcome_load, parse_of_splitsInto (Or.inl rfl),
    parse_of_splitsInto (Or.inl rfl)]
  exact recordAll_kind_eq_of_perm (hperm.map Spelling.occurrence)

/-- A line with a repeated option and a bad value fails at a different place when it is reversed. -/
theorem outcome_load_reversed :
    let written : List Spelling :=
      [.separate .letter (Utf8.encode "a") (by decide),
       .compact (.attached (.phase .stop) (Utf8.encode "bad")), .compact (.switch .emitIr),
       .compact (.attached .files (Utf8.encode "b"))]
    written.Perm written.reverse ∧
      outcome (load ([] :: written.flatMap Spelling.arguments)) =
        outcome (load ([] :: written.reverse.flatMap Spelling.arguments)) := by
  intro written
  have hperm : written.Perm written.reverse := written.reverse_perm.symm
  exact ⟨hperm, outcome_load_perm [] hperm⟩

end CompilerDriver
