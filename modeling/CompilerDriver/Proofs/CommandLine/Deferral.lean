import CompilerDriver.Proofs.CommandLine.Grammar

/-!
A value may be given at once or as an argument of its own.  The second way leaves it unchecked until
a later argument settles it, and that argument may be refused first.  So the two runs differ by one
settling (`follows_of_held`): an argument that settles undoes the difference, an argument that is
refused reports the same fault in both, and only lines that are malformed anyhow tell them apart.
-/

namespace CompilerDriver

/-- How a run that defers a value stands to the run that takes it at once: it gives the same, unless
the other finds a malformed argument. -/
def Follows {α : Type} (deferred immediate : Except Fault α) : Prop :=
  deferred = immediate ∨ immediate.mapError Fault.kind = .error .malformed ∧
    (deferred.mapError Fault.kind = .error .malformed ∨
      deferred.mapError Fault.kind = .error .unknownFlag)

/-- How the results of loading stand to each other when one of the lines defers a value. -/
structure DefersTo (deferred immediate : Except UsageError Configuration) : Prop where
  same : outcome immediate ≠ .error .malformed → deferred = immediate
  malformed : outcome immediate = .error .malformed →
    outcome deferred = .error .malformed ∨ outcome deferred = .error .unknownFlag

section Follows

variable {α β : Type} {deferred immediate : Except Fault α}

theorem mapError_kind_bind {kind : UsageErrorKind}
    (hkind : deferred.mapError Fault.kind = .error kind) (next : α → Except Fault β) :
    (deferred >>= next).mapError Fault.kind = .error kind := by
  obtain ⟨fault, rfl, hfault⟩ := mapError_eq_error_iff.1 hkind
  exact congrArg Except.error hfault

theorem Follows.bind (hfollows : Follows deferred immediate) (next : α → Except Fault β) :
    Follows (deferred >>= next) (immediate >>= next) := by
  rcases hfollows with rfl | ⟨himmediate, hdeferred | hdeferred⟩
  · exact Or.inl rfl
  · exact Or.inr ⟨mapError_kind_bind himmediate next, Or.inl (mapError_kind_bind hdeferred next)⟩
  · exact Or.inr ⟨mapError_kind_bind himmediate next, Or.inr (mapError_kind_bind hdeferred next)⟩

theorem Follows.after (first : Except Fault α) {deferred immediate : α → Except Fault β}
    (hfollows : ∀ middle, first = .ok middle → Follows (deferred middle) (immediate middle)) :
    Follows (first >>= deferred) (first >>= immediate) := by
  cases hfirst : first with
  | error fault => exact Or.inl rfl
  | ok middle => exact hfollows middle hfirst

theorem defersTo_of_follows (program : Bytes) {deferred immediate : List Bytes}
    (hfollows : Follows (parse deferred) (parse immediate)) :
    DefersTo (load (program :: deferred)) (load (program :: immediate)) := by
  constructor
  · intro hkind
    rw [outcome_load] at hkind
    rcases hfollows with hsame | ⟨hmalformed, _⟩
    · rw [load_cons, load_cons, hsame]
    · exact absurd hmalformed hkind
  · intro hkind
    rw [outcome_load] at hkind
    rw [outcome_load]
    rcases hfollows with hsame | ⟨_, hdeferred⟩
    · exact Or.inl (hsame ▸ hkind)
    · exact hdeferred

end Follows

/-- The actions that settle before they do anything else. -/
def Action.settles : Action → Bool
  | .take _ | .await _ | .help | .version => true
  | _ => false

/-- An action that settles first finds the same whether or not the state was settled before. -/
theorem Action.apply_eq_settled_bind {action : Action} (hsettles : action.settles = true)
    (state : ParseState) :
    action.apply state = state.settled >>= fun next => action.apply next := by
  have htwice := state.settled_bind_settled
  cases action with
  | take occurrence | await setting | help | version =>
      simp only [apply, ParseState.take, ParseState.await, ParseState.inform]
      rw [← bind_assoc, htwice]
  | terminate | unknownLong | unknownLetter | needlessValue | plain => cases hsettles

namespace ParseState

variable {state : ParseState} {setting : Setting} {value : Bytes}

/-- A move that is refused with the same fault before and after settling gives the same, unless
settling fails. -/
theorem follows_of_refused {α : Type} (move : ParseState → Except Fault α) {fault : Fault}
    (hkind : fault.kind = .unknownFlag) (hdeferred : move state = .error fault)
    (himmediate : ∀ next, state.settled = .ok next → move next = .error fault) :
    Follows (move state) (state.settled >>= move) := by
  rw [hdeferred]
  cases hsettled : state.settled with
  | ok next => exact Or.inl (himmediate next hsettled).symm
  | error other =>
      have hmalformed := kind_of_settled hsettled
      exact Or.inr ⟨congrArg Except.error hmalformed, Or.inr (congrArg Except.error hkind)⟩

/-- Before `--`, an action other than `--` gives much the same before and after settling. -/
theorem follows_of_apply (hheld : state.pending = some ⟨setting, some value⟩) {action : Action}
    (hend : action ≠ .terminate) :
    Follows (action.apply state) (state.settled >>= fun next => action.apply next) := by
  cases action with
  | terminate => exact absurd rfl hend
  | take | await | help | version => exact Or.inl (Action.apply_eq_settled_bind rfl state)
  | unknownLong name =>
      refine follows_of_refused (fun next => .error (next.unknownLong name)) rfl rfl ?_
      intro next hsettled
      -- The usage line shows the flags that settling would have given.
      have hsettle : state.settle.1 = next := by rw [settled_eq_ok_iff.1 hsettled]
      have hagain : next.settle.1 = next := by
        rw [settle_of_pending_eq_none (pending_of_settled hsettled)]
      rw [unknownLong, unknownLong, hsettle, hagain]
  | unknownLetter group =>
      exact follows_of_refused (fun _ => .error _) rfl rfl fun _ _ => rfl
  | needlessValue flag value =>
      refine Or.inr ⟨?_, Or.inl rfl⟩
      cases hsettled : state.settled with
      | ok next => rfl
      | error other => exact congrArg Except.error (kind_of_settled hsettled)
  | plain bytes =>
      have hstray : state.readPlain bytes = .error (stray (Utf8.lossy bytes)) := by
        rw [readPlain, hheld]
      refine follows_of_refused (fun next => next.readPlain bytes) rfl hstray ?_
      intro next hsettled
      rw [readPlain, pending_of_settled hsettled]

/-- So does every step but the one that closes the line. -/
theorem follows_of_step (hheld : state.pending = some ⟨setting, some value⟩) {argument : Bytes}
    (hend : ¬(state.terminated = false ∧ Action.ofArgument argument = .terminate)) :
    Follows (state.step argument) (state.settled >>= fun next => next.step argument) := by
  cases hclosed : state.terminated with
  | true =>
      refine follows_of_refused (fun next => next.step argument) rfl
        (step_of_terminated hclosed argument) ?_
      intro next hsettled
      exact step_of_terminated ((terminated_of_settled hsettled).trans hclosed) argument
  | false =>
      have hfollows := follows_of_apply hheld fun hasked => hend ⟨hclosed, hasked⟩
      have hsteps : (state.settled >>= fun next => next.step argument) =
          state.settled >>= fun next => (Action.ofArgument argument).apply next := by
        apply bind_congr_of_ok
        intro next hsettled
        exact step_eq_apply ((terminated_of_settled hsettled).trans hclosed) argument
      rw [step_eq_apply hclosed, hsteps]
      exact hfollows

/-- Going on from a state that holds an unchecked value is much like going on from the state in
which that value was recorded. -/
theorem follows_of_held (hheld : state.pending = some ⟨setting, some value⟩)
    (arguments : List Bytes) :
    Follows (state.run arguments >>= finish)
      (state.settled >>= fun next => next.run arguments >>= finish) := by
  induction arguments generalizing state with
  | nil =>
      left
      change state.settled >>= conclude = state.settled >>= fun next => next.settled >>= conclude
      rw [← bind_assoc, settled_bind_settled]
  | cons argument rest ih =>
      by_cases hasked : state.terminated = false ∧ Action.ofArgument argument = .terminate
      · -- Both lines are closed, and the value is still held.
        have hstep : ∀ next : ParseState, next.terminated = false →
            next.run (argument :: rest) = run { next with terminated := true } rest := by
          intro next hopen
          rw [run_cons, step_eq_apply hopen, hasked.2]
          rfl
        have hsteps : (state.settled >>= fun next => next.run (argument :: rest) >>= finish) =
            settled { state with terminated := true } >>= fun next => next.run rest >>= finish := by
          rw [settled_close, bind_assoc]
          apply bind_congr_of_ok
          intro next hsettled
          rw [hstep next ((terminated_of_settled hsettled).trans hasked.1)]
          rfl
        rw [hstep state hasked.1, hsteps]
        exact ih hheld
      · have hrun := (follows_of_step hheld hasked).bind fun next => next.run rest >>= finish
        rw [bind_assoc] at hrun
        simp only [run_cons, bind_assoc]
        exact hrun

/-- A setting whose value comes as the next argument follows one whose value comes at once. -/
theorem follows_of_separate (hopen : state.terminated = false) (opener : Opener)
    {option : Compact} (halone : Word.StandsAlone value)
    (hoccurrence : option.occurrence = .setting opener.setting value) (arguments : List Bytes) :
    Follows (state.run (opener.argument :: value :: arguments) >>= finish)
      (state.run (option.argument :: arguments) >>= finish) := by
  have hdeferred : state.run (opener.argument :: value :: arguments) =
      state.run [opener.argument, value] >>= fun next => next.run arguments :=
    run_append state [opener.argument, value] arguments
  rw [hdeferred, run_separate hopen opener halone, run_cons, step_compact hopen, take, hoccurrence]
  simp only [bind_assoc]
  apply Follows.after
  intro next hsettled
  have hheld := @follows_of_held { next with pending := some ⟨opener.setting, some value⟩ }
    opener.setting value rfl arguments
  rw [settled_deferred (pending_of_settled hsettled)] at hheld
  exact hheld

end ParseState

/-- So a line in which a value comes as the next argument defers to the line in which it comes at
once, wherever before `--` that is. -/
theorem defersTo_of_separate (program : Bytes) {before : List Bytes}
    (hdash : Word.doubleDash ∉ before) (opener : Opener) {option : Compact} {value : Bytes}
    (halone : Word.StandsAlone value)
    (hoccurrence : option.occurrence = .setting opener.setting value) (after : List Bytes) :
    DefersTo (load (program :: (before ++ opener.argument :: value :: after)))
      (load (program :: (before ++ option.argument :: after))) := by
  apply defersTo_of_follows
  rw [parse_append, parse_append]
  apply Follows.after
  intro state hrun
  exact ParseState.follows_of_separate (ParseState.terminated_of_run rfl hrun hdash) opener halone
    hoccurrence after

/-- The two ways of giving a value agree: by the long name of any setting, and by the letter of the
input file with or without an equals sign. -/
theorem load_separate_defersTo_attached (program : Bytes) {before : List Bytes}
    (hdash : Word.doubleDash ∉ before) {value : Bytes} (halone : Word.StandsAlone value)
    (after : List Bytes) :
    (∀ setting,
      DefersTo
        (load (program :: (before ++ (Opener.long setting).argument :: value :: after)))
        (load (program :: (before ++ (Compact.attached setting value).argument :: after)))) ∧
      DefersTo
        (load (program :: (before ++ Opener.letter.argument :: value :: after)))
        (load (program :: (before ++
          (Compact.cluster (Word.equals :: value) (List.cons_ne_nil _ _)).argument :: after))) ∧
      ∀ hnonempty : value ≠ [], value.head? ≠ some Word.equals →
        DefersTo
          (load (program :: (before ++ Opener.letter.argument :: value :: after)))
          (load (program :: (before ++ (Compact.cluster value hnonempty).argument :: after))) := by
  refine ⟨?_, ?_, ?_⟩
  · intro setting
    exact defersTo_of_separate program hdash (.long setting) halone rfl after
  · exact defersTo_of_separate program hdash .letter halone rfl after
  · intro hnonempty hequals
    have hoccurrence : (Compact.cluster value hnonempty).occurrence = .setting .files value :=
      congrArg (Occurrence.setting .files) (if_neg hequals)
    exact defersTo_of_separate program hdash .letter halone hoccurrence after

/-- A bad phase name may be refused for the unknown flag behind it, where an input file is not. -/
theorem load_separate_before_unknown :
    let line (arguments : List String) := load ((["cw", "--emit_ir"] ++ arguments).map Utf8.encode)
    outcome (line ["--stop=x", "--unknown"]) = .error .malformed ∧
      (outcome (line ["--stop", "x", "--unknown"]) = .error .malformed ∨
        outcome (line ["--stop", "x", "--unknown"]) = .error .unknownFlag) ∧
      line ["-F", "x", "--unknown"] = line ["-F=x", "--unknown"] ∧
      line ["-F", "x", "--unknown"] = line ["-Fx", "--unknown"] := by
  intro line
  have hdash : Word.doubleDash ∉ [Utf8.encode "--emit_ir"] := by decide
  have halone : Word.StandsAlone (Utf8.encode "x") := by decide
  obtain ⟨hlong, hequals, hcluster⟩ := load_separate_defersTo_attached (Utf8.encode "cw") hdash halone
    [Utf8.encode "--unknown"]
  have hmalformed : outcome (line ["--stop=x", "--unknown"]) = .error .malformed := rfl
  have hunknown : outcome (line ["-F=x", "--unknown"]) = .error .unknownFlag := rfl
  have hgrouped : outcome (line ["-Fx", "--unknown"]) = .error .unknownFlag := rfl
  refine ⟨hmalformed, (hlong (.phase .stop)).malformed hmalformed, ?_, ?_⟩
  · apply hequals.same
    intro hkind
    cases hunknown.symm.trans hkind
  · apply (hcluster (by decide) (by decide)).same
    intro hkind
    cases hgrouped.symm.trans hkind

end CompilerDriver
