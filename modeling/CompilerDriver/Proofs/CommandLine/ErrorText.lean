import CompilerDriver.Proofs.Text.Plain

/-!
The texts of failures.  Each is put together from plain pieces and words of the user, so it leaves
the reader of a terminal between sequences.  Whatever these words are, it keeps its beginning and
its end when it is stripped: it begins as an error and ends by pointing to help (`exists_message`).
-/

namespace CompilerDriver

open Terminal

theorem Flag.plain_name (flag : Flag) : Plain flag.name := by
  have hall : ∀ flag ∈ Flag.all, Plain flag.name := by decide +kernel
  exact hall flag (Flag.mem_all flag)

theorem Flag.plain_display (flag : Flag) : Plain flag.display := by
  have hall : ∀ flag ∈ Flag.all, Plain flag.display := by decide +kernel
  exact hall flag (Flag.mem_all flag)

theorem Phase.plain_name (phase : Phase) : Plain phase.name := by
  have hall : ∀ phase ∈ Phase.all, Plain phase.name := by decide +kernel
  exact hall phase (Phase.mem_all phase)

theorem Help.plain_possibleValues : Plain Help.possibleValues := by
  have hnames : ∀ name ∈ Phase.all.map Phase.name, Plain name := by
    intro name hname
    obtain ⟨phase, _, rfl⟩ := List.mem_map.1 hname
    exact phase.plain_name
  have hknown : Plain Phase.knownNames := plain_intercalate (by decide) hnames
  have hopen : Plain "[possible values: " := by decide
  have hclose : Plain "]" := by decide
  exact (hopen.append hknown).append hclose

theorem Help.plain_callForm : Plain Help.callForm := by decide

theorem plain_displayAll {separator : String} (hseparator : Plain separator) (flags : List Flag) :
    Plain (displayAll separator flags) := by
  apply plain_intercalate hseparator
  intro shown hshown
  obtain ⟨flag, _, rfl⟩ := List.mem_map.1 hshown
  exact flag.plain_display

/-- A usage line is plain but for the name of the program. -/
theorem Usage.closed_text (program : String) (usage : Usage) : Closed (usage.text program) := by
  have hstart : Plain "Usage: " := by decide
  have hspace : Plain " " := by decide
  have hprogram := hstart.closed.append (closed_userWord program)
  cases usage with
  | overview => exact hprogram.append Help.plain_callForm.closed
  | given flags =>
      exact (hprogram.append hspace.closed).append (plain_displayAll hspace _).closed
  | choice lead =>
      have hopen : Plain " <" := by decide
      have hclose : Plain ">" := by decide
      have hbar : Plain "|" := by decide
      have hflags := (plain_displayAll hbar Flag.configuring).closed
      cases lead with
      | none =>
          have hempty : Plain "" := by decide
          exact (((hprogram.append hempty.closed).append hopen.closed).append hflags).append
            hclose.closed
      | some flag =>
          have hlead := (hspace.append flag.plain_display).closed
          exact (((hprogram.append hlead).append hopen.closed).append hflags).append hclose.closed

/-- The front of an error text: it begins as an error and leaves the reader between sequences. -/
structure ErrorFront (text : String) : Prop where
  begins : BeginsWith "error: " text
  closed : Closed text

theorem errorFront_of_plain (rest : String) (hrest : Plain rest) : ErrorFront ("error: " ++ rest) :=
  have herror : Plain "error: " := by decide
  ⟨⟨rest, rfl⟩, (herror.append hrest).closed⟩

theorem ErrorFront.append {front more : String} (hfront : ErrorFront front) (hmore : Closed more) :
    ErrorFront (front ++ more) :=
  ⟨hfront.begins.append more, hfront.closed.append hmore⟩

namespace Fault

theorem plain_tryHelp : Plain tryHelp := by decide

theorem plain_phaseList : Plain phaseList := by
  have hindent : Plain "\n  " := by decide
  exact hindent.append Help.plain_possibleValues

theorem plain_flagTip (similar : Option Flag) : Plain (flagTip similar) := by
  cases similar with
  | none => decide
  | some flag =>
      have hopen : Plain "\n\n  tip: a similar argument exists: '--" := by decide
      have hclose : Plain "'" := by decide
      exact (hopen.append flag.plain_name).append hclose

theorem plain_phaseTip (value : String) : Plain (phaseTip value) := by
  unfold phaseTip
  cases Similarity.closest? Phase.name value Phase.all with
  | none => exact nofun
  | some phase =>
      have hopen : Plain "\n\n  tip: a similar value exists: '" := by decide
      have hclose : Plain "'" := by decide
      exact (hopen.append phase.plain_name).append hclose

theorem exists_front_valueRequired (setting : Setting) :
    ∃ front, ErrorFront front ∧ valueRequiredText setting = front ++ tryHelp := by
  have hclose : Plain "' but none was supplied" := by decide
  have hfront : ErrorFront "error: a value is required for '" :=
    errorFront_of_plain "a value is required for '" (by decide)
  have hflag := hfront.append (Flag.plain_display (.setting setting)).closed
  refine ⟨_, (hflag.append hclose.closed).append ?_, rfl⟩
  -- Only a phase has a list of possible values behind it.
  cases setting with
  | phase slot => exact plain_phaseList.closed
  | stdlib | arch | files => rfl

/-- The text of a failure is the front of an error text and the pointer to help. -/
theorem exists_front (program : String) {fault : Fault} (hkind : fault.kind.isRequest = false) :
    ∃ front, ErrorFront front ∧ fault.text program = front ++ tryHelp := by
  have hbreak : Plain "\n\n" := by decide
  have husage := fun usage : Usage => usage.closed_text program
  cases fault with
  | help | version => cases hkind
  | missingFiles given =>
      have hfront : ErrorFront "error: the following required arguments were not provided:\n  " :=
        errorFront_of_plain "the following required arguments were not provided:\n  " (by decide)
      exact ⟨_, ((hfront.append (Flag.plain_display _).closed).append hbreak.closed).append
        (husage _), rfl⟩
  | unexpectedArgument shown similar usage =>
      have hfound : Plain "' found" := by decide
      have hfront : ErrorFront "error: unexpected argument '" :=
        errorFront_of_plain "unexpected argument '" (by decide)
      exact ⟨_, ((((hfront.append (closed_userWord shown)).append hfound.closed).append
        (plain_flagTip similar).closed).append hbreak.closed).append (husage _), rfl⟩
  | unexpectedValue value flag usage =>
      have hfor : Plain "' for '" := by decide
      have hfound : Plain "' found; no more were expected\n\n" := by decide
      have hfront : ErrorFront "error: unexpected value '" :=
        errorFront_of_plain "unexpected value '" (by decide)
      exact ⟨_, ((((hfront.append (closed_userWord value)).append hfor.closed).append
        flag.plain_display.closed).append hfound.closed).append (husage _), rfl⟩
  | repeated flag =>
      have htwice : Plain "' cannot be used multiple times\n\n" := by decide
      have hfront : ErrorFront "error: the argument '" :=
        errorFront_of_plain "the argument '" (by decide)
      exact ⟨_, ((hfront.append flag.plain_display.closed).append htwice.closed).append
        (husage _), rfl⟩
  | invalidUtf8 =>
      have hfront : ErrorFront "error: invalid UTF-8 was detected in one or more arguments\n\n" :=
        errorFront_of_plain "invalid UTF-8 was detected in one or more arguments\n\n" (by decide)
      exact ⟨_, hfront.append (husage _), rfl⟩
  | valueRequired setting => exact exists_front_valueRequired setting
  | invalidPhase slot value =>
      change ∃ front, ErrorFront front ∧ (if value = "" then _ else _) = front ++ tryHelp
      split
      · exact exists_front_valueRequired (.phase slot)
      · have hfor : Plain "' for '" := by decide
        have hclose : Plain "'" := by decide
        have hfront : ErrorFront "error: invalid value '" :=
          errorFront_of_plain "invalid value '" (by decide)
        exact ⟨_, (((((hfront.append (closed_userWord value)).append hfor.closed).append
          (Flag.plain_display _).closed).append hclose.closed).append plain_phaseList.closed).append
          (plain_phaseTip value).closed, rfl⟩

/-- A failure is printed as its text and the help text for the driver's own name. -/
theorem message_toUsageError (program : String) {fault : Fault}
    (hkind : fault.kind.isRequest = false) :
    (fault.toUsageError program).message =
      strip (fault.text program) ++ "\n" ++ Help.text Help.programName := by
  change (if fault.kind.isRequest then _ else _) = _
  rw [hkind]
  rfl

/-- The message of a failure begins as its stripped text does. -/
theorem beginsWith_message {program line : String} {fault : Fault}
    (hkind : fault.kind.isRequest = false)
    (hbegins : BeginsWith line (strip (fault.text program))) :
    BeginsWith line (fault.toUsageError program).message := by
  rw [message_toUsageError program hkind]
  exact (hbegins.append _).append _

/-- What a failure says begins as an error and points to help before the help text comes. -/
theorem exists_message (program : String) {fault : Fault} (hkind : fault.kind.isRequest = false) :
    ∃ shown, (fault.toUsageError program).message =
      "error: " ++ shown ++ tryHelp ++ "\n" ++ Help.text Help.programName := by
  obtain ⟨front, ⟨⟨rest, rfl⟩, hclosed⟩, htext⟩ := exists_front program hkind
  have herror : Plain "error: " := by decide
  refine ⟨strip rest, ?_⟩
  rw [message_toUsageError program hkind, htext, strip_append_of_closed hclosed,
    strip_append_of_plain herror, strip_of_plain plain_tryHelp]

end Fault

end CompilerDriver
