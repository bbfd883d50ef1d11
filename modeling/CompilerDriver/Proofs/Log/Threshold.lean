import Mathlib.Data.List.Basic
import CompilerDriver.Proofs.CommandLine.Grammar
import CompilerDriver.Proofs.Log.Lines
import CompilerDriver.Proofs.Text.Plain

/-!
What the setting of the log changes.  A filter acts on an event by its threshold for that event
alone (`Filter.admits_event`), and thresholds are ordered by how many levels they let through.  A
filter that does not select by a field has one threshold for all events of the driver
(`Filter.threshold_eq`).  So of two such settings one shows all the lines of the other, in the same
order, although the events do not come in the order of their levels; and nothing else of a run
depends on the setting (`run_logSetting`).  Settings that select by a field need not be comparable
(`not_forall_entries_comparable`).
-/

namespace CompilerDriver

namespace Log

/-- How many levels a threshold lets through. -/
def Threshold.reach : Threshold → Nat
  | none => 0
  | some last => last.depth + 1

theorem Threshold.admits_iff {threshold : Threshold} {level : Level} :
    threshold.admits level = true ↔ level.depth < threshold.reach := by
  cases threshold with
  | none => simp [admits, reach]
  | some last => rw [admits, reach, decide_eq_true_eq, Nat.lt_succ_iff]

/-- The threshold of a filter for an event. -/
def Filter.threshold (filter : Filter) (event : Event) : Threshold :=
  (filter.chosen? Event.target event.fields).bind (·.directive.threshold)

example : (["frontend=debug,front=off", "front=3,frontends=trace", "OFF", "", "debug,==",
    "[{arch}]=off,debug", "[{phase}]=off,debug", "[{message}]=off,debug", "[{phase}]=debug"].map
    fun setting => (Filter.ofSetting (some setting)).threshold (.unknownArch "")) =
      [some .debug, some .info, none, some .error, some .warn, none, some .debug, none, none] := by
  decide +kernel

theorem Filter.admits_event (filter : Filter) (event : Event) :
    filter.admits Event.target event.fields event.level =
      (filter.threshold event).admits event.level := by
  unfold admits threshold
  cases filter.chosen? Event.target event.fields <;> rfl

/-- Some rule for the driver asks for a field that one of its events has and another has not. -/
def Filter.SelectsByField (filter : Filter) : Prop :=
  ∃ rule ∈ filter, rule.directive.target <+: Event.target ∧
    ∃ name ∈ ["config", "arch", "phase"], rule.scope = .field name.toList

instance (filter : Filter) : Decidable filter.SelectsByField :=
  inferInstanceAs (Decidable (∃ rule ∈ filter, rule.directive.target <+: Event.target ∧
    ∃ name ∈ ["config", "arch", "phase"], rule.scope = .field name.toList))

section events

variable {filter left right : Filter}

/-- A field other than these three is in an event exactly if it is the message, which all have. -/
theorem Event.mem_fields_iff {name : List Char}
    (hname : ∀ field ∈ ["config", "arch", "phase"], name ≠ field.toList) (event : Event) :
    name ∈ event.fields ↔ name = "message".toList := by
  simp only [List.forall_mem_cons] at hname
  obtain ⟨hconfig, harch, hphase, _⟩ := hname
  cases event with
  | loaded config => simp only [fields, List.mem_cons, hconfig, List.not_mem_nil, or_false]
  | unknownArch arch => simp only [fields, List.mem_cons, harch, List.not_mem_nil, or_false]
  | earlyHalt phase => simp only [fields, List.mem_cons, hphase, List.not_mem_nil, or_false]

theorem Filter.applies_eq (hselects : ¬filter.SelectsByField) {rule : Rule} (hmem : rule ∈ filter)
    (event other : Event) :
    rule.applies Event.target event.fields = rule.applies Event.target other.fields := by
  by_cases hbegins : rule.directive.target <+: Event.target
  · cases hscope : rule.scope with
    | everything | spans => simp [Rule.applies, Scope.covers, hscope]
    | field name =>
        have hname : ∀ field ∈ ["config", "arch", "phase"], name ≠ field.toList := by
          rintro field hfield rfl
          exact hselects ⟨rule, hmem, hbegins, field, hfield, hscope⟩
        have hsame : name ∈ event.fields ↔ name ∈ other.fields := by
          rw [Event.mem_fields_iff hname, Event.mem_fields_iff hname]
        simp [Rule.applies, Scope.covers, hscope, hsame]
  · rw [← List.isPrefixOf_iff_prefix] at hbegins
    simp [Rule.applies, Directive.applies, hbegins]

/-- A filter that does not select by a field treats all events of the driver alike. -/
theorem Filter.threshold_eq (hselects : ¬filter.SelectsByField) (event other : Event) :
    filter.threshold event = filter.threshold other := by
  have hrules : filter.filter (·.applies Event.target event.fields) =
      filter.filter (·.applies Event.target other.fields) :=
    List.filter_congr fun _ hmem => applies_eq hselects hmem event other
  simp only [threshold, chosen?, hrules]

/-- Thresholds that reach further for every event keep the lines and add others between them. -/
theorem shown_sublist
    (hreach : ∀ event, (left.threshold event).reach ≤ (right.threshold event).reach)
    (config : Configuration) : List.Sublist (shown left config) (shown right config) := by
  apply List.monotone_filter_right
  intro event hevent
  rw [Filter.admits_event, Threshold.admits_iff] at hevent ⊢
  exact Nat.lt_of_lt_of_le hevent (hreach event)

theorem reach_le_total (hleft : ¬left.SelectsByField) (hright : ¬right.SelectsByField)
    (config : Configuration) :
    (∀ event, (left.threshold event).reach ≤ (right.threshold event).reach) ∨
      ∀ event, (right.threshold event).reach ≤ (left.threshold event).reach := by
  have hsame : ∀ event, left.threshold event = left.threshold (.loaded config) ∧
      right.threshold event = right.threshold (.loaded config) :=
    fun event => ⟨Filter.threshold_eq hleft _ _, Filter.threshold_eq hright _ _⟩
  -- So the event that every run logs stands for all of them.
  rcases Nat.le_total (left.threshold (.loaded config)).reach
    (right.threshold (.loaded config)).reach with hle | hle
  · refine .inl fun event => ?_
    rwa [(hsame event).1, (hsame event).2]
  · refine .inr fun event => ?_
    rwa [(hsame event).1, (hsame event).2]

end events

variable {config : Configuration}

theorem Level.delimited_heading (level other : Level) :
    Delimited (fun level : Level => level.heading.toList) level other := by
  apply delimited_of_isPrefixOf
  intro level other
  cases level <;> cases other <;> decide

namespace Event

/-- The level of an event is read off the heading of its line. -/
theorem level_eq_of_beginsWith {event : Event} {level : Level}
    (hbegins : BeginsWith level.heading event.body) : event.level = level := by
  obtain ⟨rest, hbody⟩ := hbegins
  have hlist := congrArg String.toList hbody
  simp only [body, String.append_assoc, String.toList_append] at hlist
  exact Level.delimited_heading _ _ _ _ hlist

theorem unknownArch_mem_iff {arch : String} :
    .unknownArch arch ∈ ofConfiguration config ↔ config.target? = none ∧ arch = config.arch := by
  simp [ofConfiguration]

theorem earlyHalt_mem_iff {phase : Phase} :
    .earlyHalt phase ∈ ofConfiguration config ↔ config.phases.firstHalt? = some phase := by
  simp [ofConfiguration]

end Event

end Log

section requests

variable {config : Configuration} {spellings : List Spelling} {phase : Phase}

/-- A phase is requested when an option gives it as its value. -/
def RequestedBy (spellings : List Spelling) (phase : Phase) : Prop :=
  ∃ slot, .setting (.phase slot) (Utf8.encode phase.name) ∈ spellings.map Spelling.occurrence

/-- The first of the requested phases at which the pipeline arrives. -/
structure EarliestRequest (spellings : List Spelling) (phase : Phase) : Prop where
  requested : RequestedBy spellings phase
  least : ∀ other, RequestedBy spellings other → ¬other.Before phase

theorem Configuration.Reflects.get_eq_some_iff {occurrences : List Occurrence}
    (hreflects : config.Reflects occurrences) {slot : PhaseSlot} :
    config.phases.get slot = some phase ↔
      .setting (.phase slot) (Utf8.encode phase.name) ∈ occurrences := by
  constructor
  · intro hget
    by_contra hnotMem
    have habsent : ∀ value, .setting (.phase slot) value ∉ occurrences := by
      intro value hmem
      have hvalue := hreflects.given _ _ hmem
      rw [Configuration.value?, hget] at hvalue
      cases hvalue
      exact hnotMem hmem
    have hnone := hreflects.absent _ habsent
    rw [Configuration.value?, hget] at hnone
    cases hnone
  · intro hmem
    obtain ⟨other, hget, hname⟩ := Option.map_eq_some_iff.1 (hreflects.given _ _ hmem)
    rw [hget, Phase.name_injective (Utf8.encode_injective hname)]

theorem mem_requests_iff_requestedBy
    (hreflects : config.Reflects (spellings.map Spelling.occurrence)) :
    phase ∈ config.phases.requests.map Prod.snd ↔ RequestedBy spellings phase := by
  simp only [RequestedBy, ← hreflects.get_eq_some_iff, ← PhaseControl.mem_requests_iff]
  simp

/-- The pipeline is halted at the earliest phase that is requested. -/
theorem earliestRequest_of_firstHalt?
    (hreflects : config.Reflects (spellings.map Spelling.occurrence))
    (hhalt : config.phases.firstHalt? = some phase) : EarliestRequest spellings phase := by
  obtain ⟨hmem, hleast⟩ := Phase.earliest?_eq_some hhalt
  refine ⟨(mem_requests_iff_requestedBy hreflects).1 hmem, ?_⟩
  intro other hother
  rw [Phase.not_before_iff]
  exact hleast other ((mem_requests_iff_requestedBy hreflects).2 hother)

end requests

namespace Log

variable {filter : Filter} {config : Configuration} {line : String}

theorem arch_notMem_of_warning (hline : line ∈ (shown filter config).map Event.body)
    (hwarning : BeginsWith " WARN" line) : config.arch ∉ ["x64", "a64", "a32"] := by
  obtain ⟨event, hevent, rfl⟩ := List.mem_map.1 hline
  have hlevel : event.level = .warn := Event.level_eq_of_beginsWith hwarning
  cases event with
  | loaded _ | earlyHalt _ => cases hlevel
  | unknownArch arch =>
      have hunknown := (Event.unknownArch_mem_iff.1 (List.mem_of_mem_filter hevent)).1
      intro hknown
      replace hknown : config.arch ∈ Target.all.map Target.name := hknown
      obtain ⟨target, _, hname⟩ := List.mem_map.1 hknown
      rw [Configuration.target?, ← hname, Target.ofName?_name] at hunknown
      cases hunknown

theorem exists_firstHalt_of_information (hline : line ∈ (shown filter config).map Event.body)
    (hinformation : BeginsWith " INFO" line) :
    ∃ phase, config.phases.firstHalt? = some phase ∧
      line = " INFO pipeline would halt early phase=" ++ phase.name := by
  obtain ⟨event, hevent, rfl⟩ := List.mem_map.1 hline
  have hlevel : event.level = .info := Event.level_eq_of_beginsWith hinformation
  cases event with
  | loaded _ | unknownArch _ => cases hlevel
  | earlyHalt phase =>
      refine ⟨phase, Event.earlyHalt_mem_iff.1 (List.mem_of_mem_filter hevent), ?_⟩
      have hlead : " INFO pipeline would halt early phase=" =
          Level.heading .info ++ " " ++ "pipeline would halt early phase=" := by decide
      rw [hlead, String.append_assoc]
      rfl

end Log

namespace Invocation

variable {arguments : List Bytes} {config : Configuration} {left right setting : Option String}
  {line : String}

/-- What a run prints and returns does not depend on what it logs. -/
theorem run_congr (arguments : List Bytes) (left right : Option String) :
    (run { arguments, logSetting := left }).exitCode =
        (run { arguments, logSetting := right }).exitCode ∧
      (run { arguments, logSetting := left }).stdout =
        (run { arguments, logSetting := right }).stdout := by
  cases hload : load arguments with
  | error fault => simp [run_of_load_error hload]
  | ok config => simp [run_of_load_ok hload]

theorem entries_stderr_sublist (hload : load arguments = .ok config)
    (hreach : ∀ event, ((Log.Filter.ofSetting left).threshold event).reach ≤
      ((Log.Filter.ofSetting right).threshold event).reach) :
    List.Sublist (Log.entries (run { arguments, logSetting := left }).stderr)
      (Log.entries (run { arguments, logSetting := right }).stderr) := by
  rw [entries_stderr hload, entries_stderr hload]
  exact (Log.shown_sublist hreach config).map Log.Event.body

/-- The early halt is logged only at the earliest phase that the line requests. -/
theorem exists_earliestRequest_of_information (hload : load arguments = .ok config)
    (hline : line ∈ Log.entries (run { arguments, logSetting := setting }).stderr)
    (hinformation : BeginsWith " INFO" line) :
    ∃ spellings phase, SplitsInto arguments.tail spellings ∧ EarliestRequest spellings phase ∧
      line = " INFO pipeline would halt early phase=" ++ phase.name := by
  rw [entries_stderr hload] at hline
  obtain ⟨phase, hhalt, hsays⟩ := Log.exists_firstHalt_of_information hline hinformation
  have hparse : parse arguments.tail = .ok config := mapError_eq_ok_iff.1 hload
  obtain ⟨spellings, hsplits, _⟩ := exists_splitsInto_of_parse hparse
  have hreflects := reflects_of_splitsInto hsplits hparse
  exact ⟨spellings, phase, hsplits, earliestRequest_of_firstHalt? hreflects hhalt, hsays⟩

/-- The setting of the log changes nothing but the log: there is none after a usage error, and of
two runs on one line that with the higher thresholds logs what the other logs, with more lines
between.  One of them does unless a setting selects by a field.  A warning is logged only for an
unknown architecture, and the early halt only for the earliest of the phases that are requested. -/
theorem run_logSetting (arguments : List Bytes) (left right : Option String) :
    let quiet := run { arguments, logSetting := left }
    let loud := run { arguments, logSetting := right }
    quiet.exitCode = loud.exitCode ∧ quiet.stdout = loud.stdout ∧
      (∀ fault, load arguments = .error fault → quiet.stderr = "" ∧ loud.stderr = "") ∧
      ∀ config, load arguments = .ok config →
        quiet.stderr = String.join ((Log.entries quiet.stderr).map (· ++ "\n")) ∧
        ((∀ event, ((Log.Filter.ofSetting left).threshold event).reach ≤
            ((Log.Filter.ofSetting right).threshold event).reach) →
          List.Sublist (Log.entries quiet.stderr) (Log.entries loud.stderr)) ∧
        (¬(Log.Filter.ofSetting left).SelectsByField →
          ¬(Log.Filter.ofSetting right).SelectsByField →
            List.Sublist (Log.entries quiet.stderr) (Log.entries loud.stderr) ∨
              List.Sublist (Log.entries loud.stderr) (Log.entries quiet.stderr)) ∧
        ∀ line ∈ Log.entries quiet.stderr,
          (BeginsWith " WARN" line → config.arch ∉ ["x64", "a64", "a32"]) ∧
          (BeginsWith " INFO" line → ∃ spellings phase, SplitsInto arguments.tail spellings ∧
            EarliestRequest spellings phase ∧
            line = " INFO pipeline would halt early phase=" ++ phase.name) := by
  intro quiet loud
  obtain ⟨hexitCode, hstdout⟩ := run_congr arguments left right
  refine ⟨hexitCode, hstdout, ?_, ?_⟩
  · intro fault hload
    simp [quiet, loud, run_of_load_error hload]
  · intro config hload
    refine ⟨stderr_eq_join_entries hload left, entries_stderr_sublist hload, ?_, ?_⟩
    · intro hleft hright
      exact (Log.reach_le_total hleft hright config).imp (entries_stderr_sublist hload)
        (entries_stderr_sublist hload)
    · intro line hline
      refine ⟨fun hwarning => ?_, exists_earliestRequest_of_information hload hline⟩
      rw [entries_stderr hload] at hline
      exact Log.arch_notMem_of_warning hline hwarning

/-- At an unknown architecture, with two requests of which the second comes earlier. -/
theorem run_logSetting_raised :
    let arguments := ["frontend", "--arch=riscv", "--stop=after_typing",
      "--dump_ast=after_parsing", "-F", "a"].map Utf8.encode
    let quiet := run { arguments }
    let loud := run { arguments, logSetting := some "frontend=info" }
    let selected := run { arguments, logSetting := some "warn,[{phase}]=info" }
    let warning := " WARN unrecognized architecture, expected one of x64, a64, a32 arch=\"riscv\""
    let halt := " INFO pipeline would halt early phase=after_parsing"
    Log.entries quiet.stderr = [warning] ∧ Log.entries loud.stderr = [warning, halt] ∧
      quiet.exitCode = loud.exitCode ∧ quiet.stdout = loud.stdout ∧
      List.Sublist (Log.entries quiet.stderr) (Log.entries loud.stderr) ∧
      List.Sublist (Log.entries quiet.stderr) (Log.entries selected.stderr) ∧
      "riscv" ∉ ["x64", "a64", "a32"] ∧
      ∃ spellings phase, SplitsInto arguments.tail spellings ∧ EarliestRequest spellings phase ∧
        halt = " INFO pipeline would halt early phase=" ++ phase.name := by
  intro arguments quiet loud selected warning halt
  have hload : load arguments = .ok ⟨false, ⟨"./Lib"⟩, "riscv", false, ⟨"a"⟩,
      { stop := some .afterTyping, dumpAst := some .afterParsing }⟩ := rfl
  have hquiet : Log.entries quiet.stderr = [warning] := by
    rw [entries_stderr hload]
    decide +kernel
  have hloud : Log.entries loud.stderr = [warning, halt] := by
    rw [entries_stderr hload]
    decide +kernel
  obtain ⟨hexitCode, hstdout, _, hlog⟩ := run_logSetting arguments none (some "frontend=info")
  obtain ⟨_, _, hcomparable, _⟩ := hlog _ hload
  have hnotFewer : ¬List.Sublist (Log.entries loud.stderr) (Log.entries quiet.stderr) := by
    rw [hquiet, hloud]
    decide
  obtain ⟨_, _, _, hselected⟩ := run_logSetting arguments none (some "warn,[{phase}]=info")
  obtain ⟨_, hraised, _, _⟩ := hselected _ hload
  have hrules : Log.Filter.ofSetting (some "warn,[{phase}]=info") =
      [⟨⟨[], some .warn⟩, .everything⟩, ⟨⟨[], some .info⟩, .field "phase".toList⟩] := by
    decide +kernel
  have hreach : ∀ event, ((Log.Filter.ofSetting none).threshold event).reach ≤
      ((Log.Filter.ofSetting (some "warn,[{phase}]=info")).threshold event).reach := by
    rw [hrules]
    intro event
    cases event with
    | loaded _ | unknownArch _ => exact Nat.le_refl 2
    | earlyHalt _ => exact Nat.le_succ 2
  obtain ⟨_, _, _, hback⟩ := run_logSetting arguments (some "frontend=info") none
  obtain ⟨_, _, _, hlines⟩ := hback _ hload
  have hwarning : warning ∈ Log.entries loud.stderr := by simp [hloud]
  have hhalt : halt ∈ Log.entries loud.stderr := by simp [hloud]
  have hwarns : BeginsWith " WARN" warning :=
    ⟨" unrecognized architecture, expected one of x64, a64, a32 arch=\"riscv\"", by decide⟩
  have hhalts : BeginsWith " INFO" halt :=
    ⟨" pipeline would halt early phase=after_parsing", by decide⟩
  exact ⟨hquiet, hloud, hexitCode, hstdout,
    (hcomparable (by decide) (by decide +kernel)).resolve_right hnotFewer, hraised hreach,
    (hlines warning hwarning).1 hwarns, (hlines halt hhalt).2 hhalts⟩

/-- At an unknown architecture the warning alone is shown by default, and the configuration alone
when the setting selects by its field. -/
theorem not_forall_entries_comparable :
    ¬∀ (arguments : List Bytes) (left right : Option String) (config : Configuration),
      load arguments = .ok config →
        let quiet := Log.entries (run { arguments, logSetting := left }).stderr
        let loud := Log.entries (run { arguments, logSetting := right }).stderr
        List.Sublist quiet loud ∨ List.Sublist loud quiet := by
  intro hcomparable
  have hload : load (["frontend", "--arch=riscv", "-F", "a"].map Utf8.encode) =
      .ok ⟨false, ⟨"./Lib"⟩, "riscv", false, ⟨"a"⟩, {}⟩ := rfl
  have hboth := hcomparable _ none (some "[{config}]=debug") _ hload
  simp only [entries_stderr hload] at hboth
  revert hboth
  decide +kernel

end Invocation

end CompilerDriver
