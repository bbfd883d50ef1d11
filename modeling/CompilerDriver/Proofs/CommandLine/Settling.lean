import CompilerDriver.CommandLine.Load
import CompilerDriver.Proofs.Except

/-!
What the moves of the reader do to its state, move by move.  Recording and settling never reopen a
line that `--` has closed; after settling nothing is pending; and each fault that either of them
can raise is a malformed argument.
-/

namespace CompilerDriver

namespace Draft

theorem kind_of_readText {value : Bytes} {fault : Fault} (hread : readText value = .error fault) :
    fault.kind = .malformed := by
  unfold readText at hread
  split at hread
  · cases hread
  · obtain rfl := Except.error.inj hread
    rfl

theorem kind_of_readPhase {slot : PhaseSlot} {value : Bytes} {fault : Fault}
    (hread : readPhase slot value = .error fault) : fault.kind = .malformed := by
  unfold readPhase at hread
  split at hread
  · cases hread
  · obtain rfl := Except.error.inj hread
    rfl

/-- What keeps a value from being stored is a malformed argument. -/
theorem kind_of_store {draft : Draft} {occurrence : Occurrence} {fault : Fault}
    (hstore : draft.store occurrence = .error fault) : fault.kind = .malformed := by
  cases occurrence with
  | switch which => cases which <;> cases hstore
  | setting which value =>
      cases which with
      | stdlib | arch | files =>
          rcases bind_eq_error_iff.1 hstore with hread | ⟨_, _, hstored⟩
          · exact kind_of_readText hread
          · cases hstored
      | phase slot =>
          rcases bind_eq_error_iff.1 hstore with hread | ⟨_, _, hstored⟩
          · exact kind_of_readPhase hread
          · cases hstored

end Draft

namespace ParseState

variable {state next : ParseState} {fault : Fault}

theorem orFault_eq_ok_iff {outcome : ParseState × Option Fault} :
    orFault outcome = .ok next ↔ outcome = (next, none) := by
  rcases outcome with ⟨reached, _ | other⟩
  · simp [orFault]
  · simp [orFault]

theorem orFault_eq_error_iff {outcome : ParseState × Option Fault} :
    orFault outcome = .error fault ↔ outcome.2 = some fault := by
  rcases outcome with ⟨reached, _ | other⟩
  · simp [orFault]
  · simp [orFault]

/-- Recording succeeds for a new flag whose value can be stored. -/
theorem record_eq_ok_iff {occurrence : Occurrence} :
    orFault (state.record occurrence) = .ok next ↔
      occurrence.flag ∉ state.given ∧ ∃ draft, state.draft.store occurrence = .ok draft ∧
        next = { state with
          given := state.given ++ [occurrence.flag], anyGiven := true, draft := draft } := by
  rw [orFault_eq_ok_iff, record]
  by_cases hgiven : occurrence.flag ∈ state.given
  · simp [hgiven]
  · cases hstore : state.draft.store occurrence with
    | error other => simp [hgiven]
    | ok draft => simp [hgiven, eq_comm]

theorem kind_of_record {occurrence : Occurrence}
    (hrecord : (state.record occurrence).2 = some fault) : fault.kind = .malformed := by
  unfold record at hrecord
  by_cases hgiven : occurrence.flag ∈ state.given
  · rw [if_pos hgiven] at hrecord
    cases hrecord
    rfl
  · rw [if_neg hgiven] at hrecord
    cases hstore : state.draft.store occurrence with
    | ok draft =>
        rw [hstore] at hrecord
        cases hrecord
    | error other =>
        rw [hstore] at hrecord
        cases hrecord
        exact Draft.kind_of_store hstore

@[simp] theorem record_pending (state : ParseState) (occurrence : Occurrence) :
    (state.record occurrence).1.pending = state.pending := by
  unfold record
  split
  · rfl
  · split <;> rfl

@[simp] theorem record_terminated (state : ParseState) (occurrence : Occurrence) :
    (state.record occurrence).1.terminated = state.terminated := by
  unfold record
  split
  · rfl
  · split <;> rfl

theorem settle_of_pending_eq_none (hpending : state.pending = none) :
    state.settle = (state, none) := by
  rw [settle, hpending]

@[simp] theorem settle_pending (state : ParseState) : state.settle.1.pending = none := by
  rcases hpending : state.pending with _ | ⟨setting, _ | value⟩
  · rw [settle_of_pending_eq_none hpending, hpending]
  · rw [settle, hpending]
  · rw [settle, hpending, record_pending]

@[simp] theorem settle_terminated (state : ParseState) :
    state.settle.1.terminated = state.terminated := by
  rcases hpending : state.pending with _ | ⟨setting, _ | value⟩
  · rw [settle_of_pending_eq_none hpending]
  · rw [settle, hpending]
  · rw [settle, hpending, record_terminated]

theorem kind_of_settle (hsettle : state.settle.2 = some fault) : fault.kind = .malformed := by
  rcases hpending : state.pending with _ | ⟨setting, _ | value⟩
  · rw [settle_of_pending_eq_none hpending] at hsettle
    cases hsettle
  · rw [settle, hpending] at hsettle
    cases hsettle
    rfl
  · rw [settle, hpending] at hsettle
    exact kind_of_record hsettle

theorem settled_of_pending_eq_none (hpending : state.pending = none) :
    state.settled = .ok state := by
  rw [settled, settle_of_pending_eq_none hpending, orFault]

theorem settled_eq_ok_iff : state.settled = .ok next ↔ state.settle = (next, none) :=
  orFault_eq_ok_iff

theorem kind_of_settled (hsettled : state.settled = .error fault) : fault.kind = .malformed :=
  kind_of_settle (orFault_eq_error_iff.1 hsettled)

theorem pending_of_settled (hsettled : state.settled = .ok next) : next.pending = none := by
  have hpending := settle_pending state
  rwa [settled_eq_ok_iff.1 hsettled] at hpending

theorem terminated_of_settled (hsettled : state.settled = .ok next) :
    next.terminated = state.terminated := by
  have hterminated := settle_terminated state
  rwa [settled_eq_ok_iff.1 hsettled] at hterminated

theorem take_eq_ok_iff {occurrence : Occurrence} :
    state.take occurrence = .ok next ↔
      ∃ middle, state.settled = .ok middle ∧ orFault (middle.record occurrence) = .ok next :=
  bind_eq_ok_iff

theorem kind_of_take {occurrence : Occurrence} (htake : state.take occurrence = .error fault) :
    fault.kind = .malformed := by
  rcases bind_eq_error_iff.1 htake with hsettled | ⟨middle, _, hrecord⟩
  · exact kind_of_settled hsettled
  · exact kind_of_record (orFault_eq_error_iff.1 hrecord)

theorem pending_of_take {occurrence : Occurrence} (htake : state.take occurrence = .ok next) :
    next.pending = none := by
  obtain ⟨middle, hsettled, hrecord⟩ := take_eq_ok_iff.1 htake
  have hpending := record_pending middle occurrence
  rw [orFault_eq_ok_iff.1 hrecord] at hpending
  exact hpending.trans (pending_of_settled hsettled)

theorem terminated_of_take {occurrence : Occurrence} (htake : state.take occurrence = .ok next) :
    next.terminated = state.terminated := by
  obtain ⟨middle, hsettled, hrecord⟩ := take_eq_ok_iff.1 htake
  have hterminated := record_terminated middle occurrence
  rw [orFault_eq_ok_iff.1 hrecord] at hterminated
  exact hterminated.trans (terminated_of_settled hsettled)

theorem await_eq_ok_iff {setting : Setting} :
    state.await setting = .ok next ↔
      ∃ middle, state.settled = .ok middle ∧
        next = { middle with pending := some ⟨setting, none⟩ } := by
  unfold await
  rw [bind_eq_ok_iff]
  constructor
  · rintro ⟨middle, hsettled, hnext⟩
    cases hnext
    exact ⟨middle, hsettled, rfl⟩
  · rintro ⟨middle, hsettled, rfl⟩
    exact ⟨middle, hsettled, rfl⟩

/-- The configuration of a state in which nothing is pending. -/
def conclude (state : ParseState) : Except Fault Configuration :=
  match state.draft.configuration? with
  | some config => .ok config
  | none => .error (.missingFiles state.given)

theorem finish_eq_settled_bind (state : ParseState) :
    state.finish = state.settled >>= conclude := rfl

theorem record_close (state : ParseState) (occurrence : Occurrence) :
    record { state with terminated := true } occurrence =
      ({ (state.record occurrence).1 with terminated := true }, (state.record occurrence).2) := by
  unfold record
  by_cases hgiven : occurrence.flag ∈ state.given
  · simp [hgiven]
  · cases state.draft.store occurrence <;> simp [hgiven]

theorem settle_close (state : ParseState) :
    settle { state with terminated := true } =
      ({ state.settle.1 with terminated := true }, state.settle.2) := by
  rcases hpending : state.pending with _ | ⟨setting, _ | value⟩
  · simp [settle, hpending]
  · simp [settle, hpending]
  · simp only [settle, hpending]
    exact record_close { state with pending := none } (.setting setting value)

theorem settled_close (state : ParseState) :
    settled { state with terminated := true } =
      state.settled >>= fun next => .ok { next with terminated := true } := by
  rw [settled, settled, settle_close]
  rcases state.settle with ⟨reached, _ | fault⟩
  · rfl
  · rfl

/-- Closing a line at its end does not change what it gives. -/
theorem finish_close (state : ParseState) :
    finish { state with terminated := true } = state.finish := by
  rw [finish_eq_settled_bind, finish_eq_settled_bind, settled_close, bind_assoc]
  rfl

/-- Settling twice is settling once. -/
theorem settled_bind_settled (state : ParseState) : state.settled >>= settled = state.settled := by
  cases hsettled : state.settled with
  | error fault => rfl
  | ok next => exact settled_of_pending_eq_none (pending_of_settled hsettled)

/-- What a state in which nothing is pending can lack is the input file. -/
theorem conclude_eq_error_iff :
    state.conclude = .error fault ↔
      state.draft.configuration? = none ∧ fault = .missingFiles state.given := by
  unfold conclude
  cases state.draft.configuration? <;> simp [eq_comm]

theorem kind_of_conclude (hconclude : state.conclude = .error fault) :
    fault.kind = .missingRequired := by
  obtain ⟨_, rfl⟩ := conclude_eq_error_iff.1 hconclude
  rfl

theorem conclude_eq_ok_iff {config : Configuration} :
    state.conclude = .ok config ↔ state.draft.configuration? = some config := by
  unfold conclude
  cases state.draft.configuration? <;> simp

end ParseState

end CompilerDriver
