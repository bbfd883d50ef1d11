import CompilerDriver.Proofs.CommandLine.Outcome
import CompilerDriver.Proofs.CommandLine.Spelling

/-!
Requests for help or for the version.  A request is served exactly when its argument is reached
without a fault and everything before it can be settled (`load_request_iff`): it wins over a missing
input file and over whatever comes behind it, and loses to every earlier fault, that of a value
which was not checked yet included.
-/

namespace CompilerDriver

/-- What a command line can ask for instead of a configuration. -/
inductive Request where
  | help
  | version
  deriving DecidableEq, Repr

namespace Request

/-- The argument that asks by the long name. -/
def long : Request → String
  | .help => "--help"
  | .version => "--version"

/-- The beginning of an argument that asks by the letter. -/
def short : Request → String
  | .help => "-h"
  | .version => "-V"

/-- How a request ends the reading. -/
def fault : Request → Fault
  | .help => .help
  | .version => .version

def kind (request : Request) : UsageErrorKind :=
  request.fault.kind

def action : Request → Action
  | .help => .help
  | .version => .version

/-- An argument asks when it is the long name or begins with the letter. -/
def AskedBy (request : Request) (argument : Bytes) : Prop :=
  argument = Utf8.encode request.long ∨ Utf8.encode request.short <+: argument

instance (request : Request) (argument : Bytes) : Decidable (request.AskedBy argument) :=
  inferInstanceAs (Decidable (_ ∨ _))

variable {request : Request} {argument : Bytes}

theorem askedBy_iff : request.AskedBy argument ↔ Action.ofArgument argument = request.action := by
  rw [Action.ofArgument_eq_iff]
  constructor
  · rintro (rfl | ⟨rest, rfl⟩)
    · cases request with
      | help => exact .longHelp
      | version => exact .longVersion
    · cases request with
      | help => exact .shortHelp rest
      | version => exact .shortVersion rest
  · intro hasked
    cases request with
    | help =>
        cases hasked with
        | longHelp => exact Or.inl rfl
        | shortHelp rest => exact Or.inr ⟨rest, rfl⟩
    | version =>
        cases hasked with
        | longVersion => exact Or.inl rfl
        | shortVersion rest => exact Or.inr ⟨rest, rfl⟩

theorem apply_action (request : Request) (state : ParseState) :
    request.action.apply state = state.inform request.fault := by
  cases request <;> rfl

theorem kind_ne_malformed (request : Request) : request.kind ≠ .malformed := by
  cases request <;> decide

/-- A kind of error that is a request is met for that request alone. -/
theorem eq_fault_of_kind {cause : Fault} (hkind : cause.kind = request.kind) :
    cause = request.fault := by
  cases cause with
  | help | version =>
      cases request <;> cases hkind
      rfl
  | missingFiles | unexpectedArgument | unexpectedValue | repeated | invalidUtf8 | valueRequired
  | invalidPhase => cases request <;> cases hkind

theorem isRequest_iff {kind : UsageErrorKind} :
    kind.isRequest = true ↔ ∃ request : Request, kind = request.kind := by
  constructor
  · intro hrequest
    cases kind with
    | helpRequested => exact ⟨.help, rfl⟩
    | versionRequested => exact ⟨.version, rfl⟩
    | missingRequired | unknownFlag | malformed => cases hrequest
  · rintro ⟨request, rfl⟩
    cases request <;> rfl

end Request

namespace ParseState

variable {request : Request} {state : ParseState} {argument : Bytes}

/-- An action ends with a request when it asks for it and what is pending can be settled. -/
theorem apply_eq_request_iff {action : Action} :
    action.apply state = .error request.fault ↔
      action = request.action ∧ ∃ next, state.settled = .ok next := by
  have hmalformed : ∀ {fault : Fault}, fault.kind = .malformed → fault ≠ request.fault := by
    rintro fault hkind rfl
    exact request.kind_ne_malformed hkind
  constructor
  · intro happly
    cases action with
    | terminate => cases happly
    | take occurrence => exact absurd rfl (hmalformed (kind_of_take happly))
    | await setting =>
        exact absurd rfl (hmalformed (kind_of_settled (await_eq_error_iff.1 happly)))
    | help | version =>
        rcases inform_eq_error_iff.1 happly with hsettled | ⟨hsettled, hrequest⟩
        · exact absurd rfl (hmalformed (kind_of_settled hsettled))
        · cases request <;> cases hrequest
          exact ⟨rfl, hsettled⟩
    | unknownLong name | unknownLetter group | needlessValue flag value =>
        cases request <;> cases happly
    | plain bytes =>
        have hstray := eq_stray_of_readPlain happly
        cases request <;> cases hstray
  · rintro ⟨rfl, hsettled⟩
    rw [request.apply_action]
    exact inform_eq_error_iff.2 (Or.inr ⟨hsettled, rfl⟩)

/-- After `--` nothing is a request. -/
theorem step_eq_request_iff :
    state.step argument = .error request.fault ↔
      state.terminated = false ∧ request.AskedBy argument ∧ ∃ next, state.settled = .ok next := by
  cases hclosed : state.terminated with
  | true =>
      rw [step_of_terminated hclosed]
      cases request <;> simp [stray, Request.fault]
  | false => simp [step_eq_apply hclosed, apply_eq_request_iff, Request.askedBy_iff]

theorem kind_of_finish {fault : Fault} (hfinish : state.finish = .error fault) :
    fault.kind = .malformed ∨ fault.kind = .missingRequired := by
  rw [finish_eq_settled_bind] at hfinish
  rcases bind_eq_error_iff.1 hfinish with hsettled | ⟨next, _, hconclude⟩
  · exact Or.inl (kind_of_settled hsettled)
  · exact Or.inr (kind_of_conclude hconclude)

theorem finish_ne_request : state.finish ≠ .error request.fault := by
  intro hfinish
  rcases kind_of_finish hfinish with hkind | hkind
  · exact request.kind_ne_malformed hkind
  · cases request <;> cases hkind

end ParseState

section load

variable {program : Bytes} {arguments : List Bytes} {request : Request}

/-- A line ends with a request at the first argument that asks for it, if the line before it is
complete. -/
theorem parse_eq_request_iff (program : Bytes) :
    parse arguments = .error request.fault ↔
      ∃ before argument after, arguments = before ++ argument :: after ∧
        request.AskedBy argument ∧ Word.doubleDash ∉ before ∧
          Complete (load (program :: before)) := by
  constructor
  · intro hparse
    rw [parse_eq_run_bind] at hparse
    rcases bind_eq_error_iff.1 hparse with hrun | ⟨state, _, hfinish⟩
    · obtain ⟨before, argument, after, hline, state, hbefore, hstep⟩ :=
        ParseState.run_eq_error_iff.1 hrun
      obtain ⟨hopen, hasked, next, hsettled⟩ := ParseState.step_eq_request_iff.1 hstep
      exact ⟨before, argument, after, hline, hasked,
        ParseState.doubleDash_notMem_of_run hbefore hopen, complete_of_settled hbefore hsettled⟩
    · exact absurd hfinish ParseState.finish_ne_request
  · rintro ⟨before, argument, after, rfl, hasked, hdash, hcomplete⟩
    obtain ⟨state, next, hbefore, hsettled⟩ := exists_settled_of_complete hcomplete
    have hopen : state.terminated = false := ParseState.terminated_of_run rfl hbefore hdash
    exact parse_of_step hbefore
      (ParseState.step_eq_request_iff.2 ⟨hopen, hasked, next, hsettled⟩) after

theorem outcome_eq_request_iff :
    outcome (load (program :: arguments)) = .error request.kind ↔
      parse arguments = .error request.fault := by
  rw [outcome_load, mapError_eq_error_iff]
  constructor
  · rintro ⟨cause, hparse, hkind⟩
    rwa [Request.eq_fault_of_kind hkind] at hparse
  · intro hparse
    exact ⟨request.fault, hparse, rfl⟩

/-- The long name of a request alone is answered by what the request is always answered by. -/
theorem load_long (program : Bytes) (request : Request) :
    load [program, Utf8.encode request.long] =
      .error (request.fault.toUsageError (displayName (some program))) := by
  have hparse : parse [Utf8.encode request.long] = .error request.fault := by
    cases request <;> rfl
  rw [load_cons, hparse]
  rfl

/-- Help or the version is shown exactly when it is asked for, before `--`, behind a line that is
complete so far.  What is shown is then the same as for the bare request, and only then is the exit
code zero. -/
theorem load_request_iff (program : Bytes) (arguments : List Bytes) :
    (∀ request : Request, outcome (load (program :: arguments)) = .error request.kind ↔
        ∃ before argument after, arguments = before ++ argument :: after ∧
          request.AskedBy argument ∧ Word.doubleDash ∉ before ∧
            Complete (load (program :: before))) ∧
      ∀ fault, load (program :: arguments) = .error fault →
        (∀ request : Request, fault.kind = request.kind →
          fault.exitCode = 0 ∧ load [program, Utf8.encode request.long] = .error fault) ∧
        ((∀ request : Request, fault.kind ≠ request.kind) → fault.exitCode = 1) := by
  constructor
  · intro request
    rw [outcome_eq_request_iff]
    exact parse_eq_request_iff program
  · intro fault hload
    refine ⟨?_, ?_⟩
    · intro request hkind
      rw [load_cons, mapError_eq_error_iff] at hload
      obtain ⟨cause, _, rfl⟩ := hload
      have hrequested : UsageErrorKind.isRequest request.kind = true :=
        Request.isRequest_iff.2 ⟨request, rfl⟩
      refine ⟨?_, ?_⟩
      · rw [UsageError.exitCode, hkind, if_pos hrequested]
      · rw [load_long, Request.eq_fault_of_kind hkind]
    · intro hkind
      have hrequested : ¬fault.kind.isRequest = true := fun hrequest =>
        (Request.isRequest_iff.1 hrequest).elim hkind
      rw [UsageError.exitCode, if_neg hrequested]

/-- A request behind a value that is not checked yet: it is served when the value is good, whatever
comes next, and not when the value is bad. -/
theorem load_request_behind_held_value :
    let program := Utf8.encode "cw"
    let served := ["--stop", "after_typing", "-hidden", "--unknown"].map Utf8.encode
    let refused := ["--stop", "after", "-hidden"].map Utf8.encode
    (∃ fault, load (program :: served) = .error fault ∧ fault.kind = .helpRequested ∧
        fault.exitCode = 0 ∧ load [program, Utf8.encode "--help"] = .error fault) ∧
      ∃ fault, load (program :: refused) = .error fault ∧ fault.kind = .malformed ∧
        fault.exitCode = 1 := by
  intro program served refused
  constructor
  · have hcomplete :
        Complete (load (program :: ["--stop", "after_typing"].map Utf8.encode)) := by
      intro kind hkind
      cases hkind
      rfl
    obtain ⟨hserved, hanswer⟩ := load_request_iff program served
    have houtcome : outcome (load (program :: served)) = .error .helpRequested :=
      (hserved .help).2 ⟨_, Utf8.encode "-hidden", [Utf8.encode "--unknown"], rfl, by decide,
        by decide, hcomplete⟩
    obtain ⟨fault, hload, hkind⟩ := mapError_eq_error_iff.1 houtcome
    exact ⟨fault, hload, hkind, (hanswer fault hload).1 .help hkind⟩
  · have houtcome : outcome (load (program :: refused)) = .error .malformed := rfl
    obtain ⟨fault, hload, hkind⟩ := mapError_eq_error_iff.1 houtcome
    refine ⟨fault, hload, hkind, ((load_request_iff program refused).2 fault hload).2 ?_⟩
    intro request
    rw [hkind]
    exact request.kind_ne_malformed.symm

end load

end CompilerDriver
