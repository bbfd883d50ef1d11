import CompilerDriver.Proofs.CommandLine.Settling

/-!
What an argument asks for.  Before `--` the argument alone decides what is asked of the reader; the
state decides only what comes of it (`step_eq_apply`).  So a run is a list of actions applied in
turn, and what holds of every action holds of every run.
-/

namespace CompilerDriver

/-- What an argument asks for, whatever was read before it. -/
inductive Action where
  | terminate
  | take (occurrence : Occurrence)
  | await (setting : Setting)
  | help
  | version
  /-- Refuse a long name that no flag has. -/
  | unknownLong (name : Bytes)
  /-- Refuse a group of letters that begins with an unknown one. -/
  | unknownLetter (group : Bytes)
  | needlessValue (flag : Flag) (value : Bytes)
  /-- Give a value to the setting that waits for one. -/
  | plain (bytes : Bytes)
  deriving DecidableEq, Repr

namespace Action

/-- What a known flag with an optional value asks for. -/
def ofFlag : Flag → Option Bytes → Action
  | .setting setting, some value => .take (.setting setting value)
  | .setting setting, none => .await setting
  | flag, some value => .needlessValue flag value
  | .switch which, none => .take (.switch which)
  | .help, none => .help
  | .version, none => .version

def ofLong (name : Bytes) (attached : Option Bytes) : Action :=
  match Flag.ofName? name with
  | none => .unknownLong name
  | some flag => ofFlag flag attached

def ofShort (first : UInt8) (rest : Bytes) : Action :=
  match Flag.ofLetter? first with
  | some (.setting setting) =>
      if rest = [] then .await setting
      else .take (.setting setting (ParseState.letterValue rest))
  | some (.switch which) => .take (.switch which)
  | some .help => .help
  | some .version => .version
  | none => .unknownLetter (first :: rest)

def ofWord : Word → Action
  | .terminator => .terminate
  | .long name attached => ofLong name attached
  | .short first rest => ofShort first rest
  | .plain bytes => .plain bytes

def ofArgument (argument : Bytes) : Action :=
  ofWord (Word.ofBytes argument)

/-- What comes of an action in a state. -/
def apply (state : ParseState) : Action → Except Fault ParseState
  | .terminate => .ok { state with terminated := true }
  | .take occurrence => state.take occurrence
  | .await setting => state.await setting
  | .help => state.inform .help
  | .version => state.inform .version
  | .unknownLong name => .error (state.unknownLong name)
  | .unknownLetter group => .error (ParseState.stray (ParseState.shownLetter group))
  | .needlessValue flag value =>
      .error (.unexpectedValue (Utf8.lossy value) flag (state.valueUsage flag))
  | .plain bytes => state.readPlain bytes

theorem readLong_eq_apply (state : ParseState) (name : Bytes) (attached : Option Bytes) :
    state.readLong name attached = (ofLong name attached).apply state := by
  unfold ParseState.readLong ofLong
  cases Flag.ofName? name with
  | none => rfl
  | some flag => cases flag <;> cases attached <;> rfl

theorem readShort_eq_apply (state : ParseState) (first : UInt8) (rest : Bytes) :
    state.readShort first rest = (ofShort first rest).apply state := by
  unfold ParseState.readShort ofShort
  cases Flag.ofLetter? first with
  | none => rfl
  | some flag =>
      cases flag with
      | setting setting => by_cases hrest : rest = [] <;> simp [hrest, apply]
      | switch which => rfl
      | help => rfl
      | version => rfl

end Action

namespace ParseState

variable {state next : ParseState} {argument : Bytes} {arguments : List Bytes}

/-- Before `--`, a step applies what its argument asks for. -/
theorem step_eq_apply (hopen : state.terminated = false) (argument : Bytes) :
    state.step argument = (Action.ofArgument argument).apply state := by
  unfold step Action.ofArgument
  rw [hopen, if_neg Bool.false_ne_true]
  cases Word.ofBytes argument with
  | terminator => rfl
  | long name attached => exact Action.readLong_eq_apply state name attached
  | short first rest => exact Action.readShort_eq_apply state first rest
  | plain bytes => rfl

theorem step_of_terminated (hclosed : state.terminated = true) (argument : Bytes) :
    state.step argument = .error (stray (Utf8.lossy argument)) := by
  rw [step, if_pos hclosed]

theorem readPlain_eq_ok_iff {bytes : Bytes} :
    state.readPlain bytes = .ok next ↔
      ∃ setting, state.pending = some ⟨setting, none⟩ ∧
        next = { state with pending := some ⟨setting, some bytes⟩ } := by
  unfold readPlain
  rcases state.pending with _ | ⟨setting, _ | value⟩
  · simp
  · simp [eq_comm]
  · simp

theorem eq_stray_of_readPlain {bytes : Bytes} {fault : Fault}
    (hplain : state.readPlain bytes = .error fault) : fault = stray (Utf8.lossy bytes) := by
  unfold readPlain at hplain
  split at hplain
  · cases hplain
  · cases hplain
    rfl

theorem inform_ne_ok {request : Fault} : state.inform request ≠ .ok next := by
  intro hinform
  obtain ⟨_, _, hnext⟩ := bind_eq_ok_iff.1 hinform
  cases hnext

theorem inform_eq_error_iff {request fault : Fault} :
    state.inform request = .error fault ↔
      state.settled = .error fault ∨ (∃ middle, state.settled = .ok middle) ∧ request = fault := by
  unfold inform
  rw [bind_eq_error_iff]
  simp

theorem await_eq_error_iff {setting : Setting} {fault : Fault} :
    state.await setting = .error fault ↔ state.settled = .error fault := by
  unfold await
  rw [bind_eq_error_iff]
  simp [pure, Except.pure]

/-- The four ways in which an argument is read and the reader goes on. -/
theorem step_eq_ok_iff :
    state.step argument = .ok next ↔ state.terminated = false ∧
      (Action.ofArgument argument = .terminate ∧ next = { state with terminated := true } ∨
        (∃ occurrence, Action.ofArgument argument = .take occurrence ∧
          state.take occurrence = .ok next) ∨
        (∃ setting, Action.ofArgument argument = .await setting ∧
          state.await setting = .ok next) ∨
        ∃ bytes, Action.ofArgument argument = .plain bytes ∧ state.readPlain bytes = .ok next) := by
  cases hclosed : state.terminated with
  | true => simp [step_of_terminated hclosed]
  | false =>
      rw [step_eq_apply hclosed]
      cases hasked : Action.ofArgument argument <;>
        simp [Action.apply, inform_ne_ok, @eq_comm _ _ next]

/-- Only `--` closes a line. -/
theorem terminated_of_step (hstep : state.step argument = .ok next)
    (hasked : Action.ofArgument argument ≠ .terminate) : next.terminated = false := by
  obtain ⟨hopen, hend | ⟨_, _, htake⟩ | ⟨_, _, hawait⟩ | ⟨_, _, hplain⟩⟩ := step_eq_ok_iff.1 hstep
  · exact absurd hend.1 hasked
  · exact (terminated_of_take htake).trans hopen
  · obtain ⟨middle, hsettled, rfl⟩ := await_eq_ok_iff.1 hawait
    exact (terminated_of_settled hsettled).trans hopen
  · obtain ⟨setting, _, rfl⟩ := readPlain_eq_ok_iff.1 hplain
    exact hopen

theorem run_cons (state : ParseState) (argument : Bytes) (arguments : List Bytes) :
    state.run (argument :: arguments) = state.step argument >>= fun next => next.run arguments :=
  rfl

@[simp] theorem run_singleton (state : ParseState) (argument : Bytes) :
    state.run [argument] = state.step argument :=
  bind_pure (state.step argument)

/-- What an action finds wrong is never a missing input file. -/
theorem kind_ne_of_apply {action : Action} {fault : Fault}
    (happly : action.apply state = .error fault) : fault.kind ≠ .missingRequired := by
  have hmalformed : fault.kind = .malformed → fault.kind ≠ .missingRequired := by
    intro hkind
    rw [hkind]
    decide
  cases action with
  | terminate => cases happly
  | take occurrence => exact hmalformed (kind_of_take happly)
  | await setting => exact hmalformed (kind_of_settled (await_eq_error_iff.1 happly))
  | help | version =>
      rcases inform_eq_error_iff.1 happly with hsettled | ⟨_, rfl⟩
      · exact hmalformed (kind_of_settled hsettled)
      · decide
  | unknownLong name | unknownLetter group | needlessValue flag value =>
      obtain rfl := Except.error.inj happly
      exact UsageErrorKind.noConfusion
  | plain bytes =>
      obtain rfl := eq_stray_of_readPlain happly
      exact UsageErrorKind.noConfusion

theorem kind_ne_of_step {fault : Fault} (hstep : state.step argument = .error fault) :
    fault.kind ≠ .missingRequired := by
  cases hclosed : state.terminated with
  | true =>
      rw [step_of_terminated hclosed] at hstep
      obtain rfl := Except.error.inj hstep
      exact UsageErrorKind.noConfusion
  | false =>
      rw [step_eq_apply hclosed] at hstep
      exact kind_ne_of_apply hstep

/-- A run that fails stops at one argument, and reads all before it. -/
theorem run_eq_error_iff {fault : Fault} :
    state.run arguments = .error fault ↔
      ∃ before argument after, arguments = before ++ argument :: after ∧
        ∃ middle, state.run before = .ok middle ∧ middle.step argument = .error fault := by
  constructor
  · intro hrun
    induction arguments generalizing state with
    | nil => cases hrun
    | cons first rest ih =>
        rcases bind_eq_error_iff.1 hrun with hstep | ⟨middle, hstep, hrest⟩
        · exact ⟨[], first, rest, rfl, state, rfl, hstep⟩
        · obtain ⟨before, argument, after, rfl, last, hbefore, hfails⟩ := ih hrest
          have hrun : state.run (first :: before) = .ok last :=
            bind_eq_ok_iff.2 ⟨middle, hstep, hbefore⟩
          exact ⟨first :: before, argument, after, rfl, last, hrun, hfails⟩
  · rintro ⟨before, argument, after, rfl, middle, hbefore, hstep⟩
    rw [run_append, hbefore]
    change middle.run (argument :: after) = .error fault
    rw [run_cons, hstep]
    rfl

/-- What stops the reader early is never a missing input file. -/
theorem kind_ne_of_run {fault : Fault} (hrun : state.run arguments = .error fault) :
    fault.kind ≠ .missingRequired := by
  obtain ⟨_, _, _, _, _, _, hstep⟩ := run_eq_error_iff.1 hrun
  exact kind_ne_of_step hstep

/-- A closed line goes on with nothing. -/
theorem eq_of_run_of_terminated (hclosed : state.terminated = true)
    (hrun : state.run arguments = .ok next) : arguments = [] ∧ next = state := by
  cases arguments with
  | nil =>
      cases hrun
      exact ⟨rfl, rfl⟩
  | cons argument rest =>
      rw [run_cons, step_of_terminated hclosed] at hrun
      cases hrun

end ParseState

end CompilerDriver
