import CompilerDriver.Proofs.CommandLine.Outcome
import CompilerDriver.Proofs.CommandLine.Reading

/-!
The grammar of command lines.  A line is accepted exactly when it splits into spellings of
acceptable occurrences, with at most one `--` at the end, and the configuration then reflects the
occurrences.  What carries this is that deferring does not show between well-formed options: to
read a spelling and settle is to take its occurrence (`run_spelling_bind_settled`).
-/

namespace CompilerDriver

/-- A line splits into spellings when it consists of their arguments, or of these and `--`. -/
def SplitsInto (arguments : List Bytes) (spellings : List Spelling) : Prop :=
  arguments = spellings.flatMap Spelling.arguments ∨
    arguments = spellings.flatMap Spelling.arguments ++ [Word.doubleDash]

/-- No flag occurs twice, every value is admitted, and the input file is given. -/
structure Acceptable (occurrences : List Occurrence) : Prop extends Recordable occurrences where
  files : .setting .files ∈ occurrences.map Occurrence.flag

namespace ParseState

variable {state next : ParseState}

theorem take_bind_settled (state : ParseState) (occurrence : Occurrence) :
    state.take occurrence >>= settled = state.take occurrence := by
  cases htake : state.take occurrence with
  | error fault => rfl
  | ok next => exact settled_of_pending_eq_none (pending_of_take htake)

theorem step_doubleDash (hopen : state.terminated = false) :
    state.step Word.doubleDash = .ok { state with terminated := true } := by
  rw [step_eq_apply hopen]
  rfl

theorem step_compact (hopen : state.terminated = false) (option : Compact) :
    state.step option.argument = state.take option.occurrence := by
  rw [step_eq_apply hopen, Action.ofArgument_compact, Action.apply]

theorem step_opener (hopen : state.terminated = false) (opener : Opener) :
    state.step opener.argument = state.await opener.setting := by
  rw [step_eq_apply hopen, Action.ofArgument_opener, Action.apply]

theorem step_of_standsAlone (hopen : state.terminated = false) {value : Bytes}
    (halone : Word.StandsAlone value) : state.step value = state.readPlain value := by
  rw [step_eq_apply hopen, Action.ofArgument_eq_iff.2 (.plain halone), Action.apply]

/-- An opener and its value settle what came before and leave their occurrence to be settled. -/
theorem run_separate (hopen : state.terminated = false) (opener : Opener) {value : Bytes}
    (halone : Word.StandsAlone value) :
    state.run [opener.argument, value] = state.settled >>= fun next =>
      .ok { next with pending := some ⟨opener.setting, some value⟩ } := by
  rw [run_cons, step_opener hopen, await, bind_assoc]
  apply bind_congr_of_ok
  intro next hsettled
  have hwaiting : terminated { next with pending := some ⟨opener.setting, none⟩ } = false :=
    (terminated_of_settled hsettled).trans hopen
  change run _ [value] = _
  rw [run_singleton, step_of_standsAlone hwaiting halone]
  rfl

theorem settled_deferred (hpending : state.pending = none) (setting : Setting) (value : Bytes) :
    settled { state with pending := some ⟨setting, some value⟩ } =
      orFault (state.record (.setting setting value)) := by
  cases state
  cases hpending
  rfl

/-- To read a spelling and settle is to take its occurrence. -/
theorem run_spelling_bind_settled (hopen : state.terminated = false) (spelling : Spelling) :
    state.run spelling.arguments >>= settled = state.take spelling.occurrence := by
  cases spelling with
  | compact option =>
      rw [Spelling.arguments, run_singleton, step_compact hopen]
      exact take_bind_settled state option.occurrence
  | separate opener value halone =>
      rw [Spelling.arguments, run_separate hopen opener halone, bind_assoc, take]
      apply bind_congr_of_ok
      intro next hsettled
      exact settled_deferred (pending_of_settled hsettled) opener.setting value

/-- To read spellings and settle is to settle and record their occurrences. -/
theorem run_spellings_bind_settled (hopen : state.terminated = false) (spellings : List Spelling) :
    state.run (spellings.flatMap Spelling.arguments) >>= settled =
      state.settled >>= fun next => next.recordAll (spellings.map Spelling.occurrence) := by
  induction spellings generalizing state with
  | nil =>
      change state.settled = state.settled >>= pure
      rw [bind_pure]
  | cons spelling rest ih =>
      -- The rest of the line does not care whether the first spelling was settled before it.
      have hfirst := run_spelling_bind_settled hopen spelling
      calc state.run ((spelling :: rest).flatMap Spelling.arguments) >>= settled
          = state.run spelling.arguments >>= fun next =>
              next.run (rest.flatMap Spelling.arguments) >>= settled := by
            rw [List.flatMap_cons, run_append, bind_assoc]
        _ = state.run spelling.arguments >>= fun next =>
              next.settled >>= fun last => last.recordAll (rest.map Spelling.occurrence) := by
            apply bind_congr_of_ok
            intro next hrun
            exact ih (terminated_of_run hopen hrun spelling.doubleDash_notMem_arguments)
        _ = state.take spelling.occurrence >>= fun last =>
              last.recordAll (rest.map Spelling.occurrence) := by
            rw [← bind_assoc, hfirst]
        _ = state.settled >>= fun next =>
              next.recordAll ((spelling :: rest).map Spelling.occurrence) := by
            rw [take, bind_assoc]
            rfl

end ParseState

section split

variable {arguments : List Bytes} {spellings : List Spelling} {option : Compact}

theorem splitsInto_compact_cons_iff {argument : Bytes} :
    SplitsInto (argument :: arguments) (.compact option :: spellings) ↔
      argument = option.argument ∧ SplitsInto arguments spellings := by
  simp [SplitsInto, Spelling.arguments, and_or_left]

/-- An option in a single argument at the front of a line is the first piece of every split. -/
theorem SplitsInto.exists_of_cons (hsplits : SplitsInto (option.argument :: arguments) spellings) :
    ∃ first others, spellings = .compact first :: others ∧
      first.occurrence = option.occurrence ∧ SplitsInto arguments others := by
  cases spellings with
  | nil =>
      rcases hsplits with hline | hline
      · cases hline
      · have hdash := Spelling.doubleDash_notMem_arguments (.compact option)
        exact absurd (List.mem_singleton.2 (List.cons.inj hline).1.symm) hdash
  | cons spelling others =>
      cases spelling with
      | separate opener value halone =>
          have hopener : option.argument = opener.argument := by
            rcases hsplits with hline | hline <;> exact (List.cons.inj hline).1
          exact absurd hopener (option.argument_ne_opener opener)
      | compact first =>
          obtain ⟨hfirst, hrest⟩ := splitsInto_compact_cons_iff.1 hsplits
          exact ⟨first, others, rfl, Compact.occurrence_eq_of_argument_eq hfirst.symm, hrest⟩

end split

/-- One `--` at the end of a line without any changes nothing. -/
theorem parse_append_doubleDash {arguments : List Bytes} (hdash : Word.doubleDash ∉ arguments) :
    parse (arguments ++ [Word.doubleDash]) = parse arguments := by
  rw [parse_append, parse_eq_run_bind]
  cases hrun : ({} : ParseState).run arguments with
  | error fault => rfl
  | ok state =>
      have hopen : state.terminated = false := ParseState.terminated_of_run rfl hrun hdash
      change state.run [Word.doubleDash] >>= ParseState.finish = state.finish
      rw [ParseState.run_singleton, ParseState.step_doubleDash hopen]
      exact ParseState.finish_close state

/-- A line gives what its occurrences give when they are recorded one after the other. -/
theorem parse_of_splitsInto {arguments : List Bytes} {spellings : List Spelling}
    (hsplits : SplitsInto arguments spellings) :
    parse arguments =
      ({} : ParseState).recordAll (spellings.map Spelling.occurrence) >>= ParseState.conclude := by
  have hline : parse (spellings.flatMap Spelling.arguments) =
      ({} : ParseState).recordAll (spellings.map Spelling.occurrence) >>= ParseState.conclude := by
    calc parse (spellings.flatMap Spelling.arguments)
        = (({} : ParseState).run (spellings.flatMap Spelling.arguments) >>= ParseState.settled)
            >>= ParseState.conclude := by
          rw [bind_assoc]
          rfl
      _ = _ := by
          rw [ParseState.run_spellings_bind_settled rfl]
          rfl
  have hdash : Word.doubleDash ∉ spellings.flatMap Spelling.arguments := by
    intro hmem
    obtain ⟨spelling, _, hspelling⟩ := List.mem_flatMap.1 hmem
    exact spelling.doubleDash_notMem_arguments hspelling
  rcases hsplits with rfl | rfl
  · exact hline
  · rw [parse_append_doubleDash hdash, hline]

namespace Recorded

variable {occurrences : List Occurrence} {state : ParseState}

/-- A state ends in a configuration exactly when it has recorded an input file. -/
theorem exists_conclude_iff (hstate : Recorded occurrences state) :
    (∃ config, state.conclude = .ok config) ↔
      .setting .files ∈ occurrences.map Occurrence.flag := by
  simp only [ParseState.conclude_eq_ok_iff]
  rw [state.draft.exists_configuration?_iff]
  constructor
  · rintro ⟨value, hheld⟩
    exact List.mem_map.2 ⟨_, (hstate.holds _).1 hheld, rfl⟩
  · intro hfiles
    obtain ⟨occurrence, hmem, hflag⟩ := List.mem_map.1 hfiles
    cases occurrence with
    | switch which => cases hflag
    | setting setting value =>
        cases hflag
        exact ⟨value, (hstate.holds _).2 hmem⟩

theorem reflects_of_conclude (hstate : Recorded occurrences state) {config : Configuration}
    (hconclude : state.conclude = .ok config) : config.Reflects occurrences :=
  Draft.reflects_of_configuration? (ParseState.conclude_eq_ok_iff.1 hconclude) hstate.holds

end Recorded

section accept

variable {arguments : List Bytes} {spellings : List Spelling} {config : Configuration}

/-- A line that can be settled splits into spellings of what is recorded when it is. -/
theorem exists_splitsInto_of_settled {state last : ParseState}
    (hrun : ({} : ParseState).run arguments = .ok state) (hsettled : state.settled = .ok last) :
    ∃ spellings, SplitsInto arguments spellings ∧
      Recorded (spellings.map Spelling.occurrence) last := by
  obtain ⟨reading, hreading, harguments⟩ := Reading.exists_reading_of_run hrun
  obtain ⟨spellings, hspellings, hlast⟩ := hreading.settled hsettled
  refine ⟨spellings, ?_, hlast⟩
  rw [← harguments, SplitsInto, hspellings, Reading.arguments]
  cases reading.terminated with
  | false => exact Or.inl (List.append_nil _)
  | true => exact Or.inr rfl

/-- A line that gives a configuration splits into spellings of acceptable occurrences. -/
theorem exists_splitsInto_of_parse (hparse : parse arguments = .ok config) :
    ∃ spellings, SplitsInto arguments spellings ∧
      Acceptable (spellings.map Spelling.occurrence) := by
  rw [parse_eq_run_bind] at hparse
  obtain ⟨state, hrun, hfinish⟩ := bind_eq_ok_iff.1 hparse
  obtain ⟨last, hsettled, hconclude⟩ := bind_eq_ok_iff.1 hfinish
  obtain ⟨spellings, hsplits, hlast⟩ := exists_splitsInto_of_settled hrun hsettled
  exact ⟨spellings, hsplits, hlast.recordable, hlast.exists_conclude_iff.1 ⟨config, hconclude⟩⟩

theorem exists_parse_of_splitsInto (hsplits : SplitsInto arguments spellings)
    (hacceptable : Acceptable (spellings.map Spelling.occurrence)) :
    ∃ config, parse arguments = .ok config := by
  obtain ⟨state, hrecord⟩ := ParseState.exists_recordAll_iff.2 hacceptable.toRecordable
  obtain ⟨config, hconclude⟩ :=
    (ParseState.recorded_of_recordAll hrecord).exists_conclude_iff.2 hacceptable.files
  refine ⟨config, ?_⟩
  rw [parse_of_splitsInto hsplits]
  exact bind_eq_ok_iff.2 ⟨state, hrecord, hconclude⟩

theorem reflects_of_splitsInto (hsplits : SplitsInto arguments spellings)
    (hparse : parse arguments = .ok config) :
    config.Reflects (spellings.map Spelling.occurrence) := by
  rw [parse_of_splitsInto hsplits] at hparse
  obtain ⟨state, hrecord, hconclude⟩ := bind_eq_ok_iff.1 hparse
  exact (ParseState.recorded_of_recordAll hrecord).reflects_of_conclude hconclude

end accept

namespace GrammarWitness

/-- A value of its own, a switch, a value with equals signs in it, and a closing `--`. -/
def spellings : List Spelling :=
  [.separate (.long (.phase .stop)) (Utf8.encode "after_typing") (by decide),
   .compact (.switch .emitIr),
   .compact (.cluster (Utf8.encode "=a=b") (by decide))]

def arguments : List Bytes :=
  ["--stop", "after_typing", "--emit_ir", "-F=a=b", "--"].map Utf8.encode

/-- The settings that are left out have their defaults. -/
def config : Configuration where
  shakeTree := false
  stdlibPath := ⟨"./Lib"⟩
  arch := "x64"
  emitIr := true
  sourceFiles := ⟨"a=b"⟩
  phases := { stop := some .afterTyping }

end GrammarWitness

end CompilerDriver
