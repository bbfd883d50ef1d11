import CompilerDriver.Proofs.CommandLine.Deferral
import CompilerDriver.Proofs.CommandLine.ErrorText
import CompilerDriver.Proofs.CommandLine.NamedFlags

/-!
Repeated options.  A flag that a complete line names already is refused as repeated, before its
value is looked at, whatever comes behind it.  When the value comes as an argument of its own, the
repetition is found once that value is settled, and an unknown flag behind it may be found first
(`load_repeated`).
-/

namespace CompilerDriver

open Terminal

/-- The line that reports a flag that was used before. -/
def repeatedLine (flag : Flag) : String :=
  "error: the argument '" ++ flag.form ++ "' cannot be used multiple times\n"

theorem repeatedLine_eq (flag : Flag) : repeatedLine flag =
    "error: the argument '" ++ flag.display ++ "' cannot be used multiple times\n" := by
  rw [flag.display_eq_form]
  rfl

/-- The line stands first in the message. -/
theorem Fault.beginsWith_repeatedLine (program : String) (flag : Flag) :
    BeginsWith (repeatedLine flag) ((Fault.repeated flag).toUsageError program).message := by
  have hopen : Plain "error: the argument '" := by decide
  have hclose : Plain "' cannot be used multiple times\n" := by decide
  have hassoc : ∀ a b c d e f : String, c = d ++ "\n" →
      a ++ b ++ c ++ e ++ f = a ++ b ++ d ++ ("\n" ++ e ++ f) := by
    rintro a b c d e f rfl
    simp only [String.append_assoc]
  have htext : (Fault.repeated flag).text program =
      "error: the argument '" ++ flag.display ++ "' cannot be used multiple times\n" ++ _ :=
    hassoc _ _ _ _ _ _ rfl
  apply beginsWith_message rfl
  rw [repeatedLine_eq, htext,
    strip_append_of_plain ((hopen.append flag.plain_display).append hclose)]
  exact ⟨_, rfl⟩

namespace ParseState

variable {state next : ParseState} {occurrence : Occurrence}

/-- That a flag is repeated is found before its value is looked at. -/
theorem record_of_mem_given (hgiven : occurrence.flag ∈ state.given) :
    orFault (state.record occurrence) = .error (.repeated occurrence.flag) := by
  rw [record, if_pos hgiven]
  rfl

theorem take_of_mem_given (hsettled : state.settled = .ok next)
    (hgiven : occurrence.flag ∈ next.given) :
    state.take occurrence = .error (.repeated occurrence.flag) := by
  rw [take, hsettled]
  exact record_of_mem_given hgiven

theorem settled_of_mem_given (hpending : state.pending = none) {setting : Setting}
    (hgiven : .setting setting ∈ state.given) (value : Bytes) :
    settled { state with pending := some ⟨setting, some value⟩ } =
      .error (.repeated (.setting setting)) := by
  rw [settled_deferred hpending]
  exact @record_of_mem_given state (.setting setting value) hgiven

end ParseState

section repeated

variable {before : List Bytes} {state next : ParseState}
  (hrun : ({} : ParseState).run before = .ok state) (hopen : state.terminated = false)
  (hsettled : state.settled = .ok next)

include hrun hopen hsettled

theorem parse_compact_of_mem_given {option : Compact}
    (hgiven : option.occurrence.flag ∈ next.given) (after : List Bytes) :
    parse (before ++ option.argument :: after) = .error (.repeated option.occurrence.flag) := by
  apply parse_of_step hrun
  rw [ParseState.step_compact hopen]
  exact ParseState.take_of_mem_given hsettled hgiven

/-- A repetition whose value comes by itself is found by the end of the line. -/
theorem parse_separate_of_mem_given {opener : Opener}
    (hgiven : .setting opener.setting ∈ next.given) {value : Bytes}
    (halone : Word.StandsAlone value) :
    parse (before ++ [opener.argument, value]) = .error (.repeated (.setting opener.setting)) := by
  rw [parse_append, hrun]
  change state.run [opener.argument, value] >>= ParseState.finish = _
  rw [ParseState.run_separate hopen opener halone, hsettled]
  change ParseState.settled _ >>= ParseState.conclude = _
  rw [ParseState.settled_of_mem_given (ParseState.pending_of_settled hsettled) hgiven]
  rfl

end repeated

/-- A repetition is reported in the same words wherever it is found. -/
theorem exists_report_repeated (program : Bytes) (flag : Flag) :
    ∃ message, BeginsWith (repeatedLine flag) message ∧
      ∀ arguments, parse arguments = .error (.repeated flag) →
        load (program :: arguments) = .error ⟨.malformed, message⟩ := by
  refine ⟨_, Fault.beginsWith_repeatedLine (displayName (some program)) flag, ?_⟩
  intro arguments hparse
  exact load_eq_error_iff.2 ⟨_, hparse, rfl⟩

/-- A flag that a complete line names is not used again.  In a single argument it is refused as
repeated, whatever its value and whatever comes behind it.  With its value as an argument of its own
it is refused too, and as repeated when nothing comes behind it. -/
theorem load_repeated (program : Bytes) {before : List Bytes} (hdash : Word.doubleDash ∉ before)
    (hcomplete : Complete (load (program :: before))) {flag : Flag}
    (hflag : flag ∈ namedFlags before) :
    ∃ message, BeginsWith (repeatedLine flag) message ∧
      (∀ option : Compact, option.occurrence.flag = flag → ∀ after,
        load (program :: (before ++ option.argument :: after)) = .error ⟨.malformed, message⟩) ∧
      ∀ (opener : Opener) (value : Bytes), .setting opener.setting = flag →
        Word.StandsAlone value →
          load (program :: (before ++ [opener.argument, value])) = .error ⟨.malformed, message⟩ ∧
            ∀ after, let line := program :: (before ++ opener.argument :: value :: after)
              outcome (load line) = .error .malformed ∨ outcome (load line) = .error .unknownFlag := by
  obtain ⟨state, next, hrun, hsettled⟩ := exists_settled_of_complete hcomplete
  have hopen : state.terminated = false := ParseState.terminated_of_run rfl hrun hdash
  have hgiven : flag ∈ next.given := by rwa [given_of_settled hrun hsettled]
  obtain ⟨message, hbegins, hreport⟩ := exists_report_repeated program flag
  refine ⟨message, hbegins, ?_, ?_⟩
  · rintro option rfl after
    exact hreport _ (parse_compact_of_mem_given hrun hopen hsettled hgiven after)
  · rintro opener value rfl halone
    refine ⟨hreport _ (parse_separate_of_mem_given hrun hopen hsettled hgiven halone), ?_⟩
    -- With more behind it the line fails as with the value attached, or at an unknown flag first.
    intro after line
    let attached := Compact.attached opener.setting value
    have hattached : attached.occurrence.flag ∈ next.given := hgiven
    have hmalformed : outcome (load (program :: (before ++ attached.argument :: after))) =
        .error .malformed := by
      rw [outcome_load, parse_compact_of_mem_given hrun hopen hsettled hattached]
      rfl
    exact (defersTo_of_separate program hdash opener halone rfl after).malformed hmalformed

/-- A phase that is still held back is repeated with a bad value, and the input file by its letter in
front of a request for help. -/
theorem load_repeated_bad_value :
    let before := ["-F", "a", "--stop", "after_typing"].map Utf8.encode
    let line (more : List String) := Utf8.encode "cw" :: (before ++ more.map Utf8.encode)
    Word.doubleDash ∉ before ∧ Complete (load (Utf8.encode "cw" :: before)) ∧
      (.setting (.phase .stop) ∈ namedFlags before ∧ ∃ message,
        BeginsWith "error: the argument '--stop <PHASE>' cannot be used multiple times\n" message ∧
          load (line ["--stop=bad", "--unknown"]) = .error ⟨.malformed, message⟩) ∧
      (.setting .files ∈ namedFlags before ∧ ∃ message,
        BeginsWith "error: the argument '--files <FILE>' cannot be used multiple times\n" message ∧
          load (line ["-F=", "--help"]) = .error ⟨.malformed, message⟩ ∧
          load (line ["--files", "-"]) = .error ⟨.malformed, message⟩) := by
  intro before line
  have hdash : Word.doubleDash ∉ before := by decide
  have hcomplete : Complete (load (Utf8.encode "cw" :: before)) := by
    intro kind hkind
    cases hkind
  have hstop : .setting (.phase .stop) ∈ namedFlags before := by decide
  have hfiles : .setting .files ∈ namedFlags before := by decide
  refine ⟨hdash, hcomplete, ⟨hstop, ?_⟩, hfiles, ?_⟩
  · obtain ⟨message, hbegins, hcompact, _⟩ := load_repeated _ hdash hcomplete hstop
    exact ⟨message, hbegins,
      hcompact (.attached (.phase .stop) (Utf8.encode "bad")) rfl [Utf8.encode "--unknown"]⟩
  · obtain ⟨message, hbegins, hcompact, hseparate⟩ := load_repeated _ hdash hcomplete hfiles
    exact ⟨message, hbegins,
      hcompact (.cluster (Utf8.encode "=") (by decide)) rfl [Utf8.encode "--help"],
      (hseparate (.long .files) (Utf8.encode "-") rfl (by decide)).1⟩

end CompilerDriver
