import CompilerDriver.Proofs.CommandLine.Canonical
import CompilerDriver.Proofs.Report.Lines

/-!
Reading a report back.  A line is read by what it begins with: no flag's line begins like the line
of another flag, so the value that follows may be anything, even a text that looks like the start
of a line.  Thus a report whose values keep to their lines is read as the canonical line of its
configuration (`readReport_writeReport`), and loading that line gives the configuration back.
-/

namespace CompilerDriver

/-- How a report calls a flag. -/
def Flag.reportLabel : Flag → String
  | .switch .shakeTree => "shake tree"
  | .setting .files => "source files"
  | flag => flag.name

/-- What the line of a flag begins with. -/
def Flag.reportHead (flag : Flag) : String :=
  flag.reportLabel ++ " flag: "

/-- What has to occur on a command line for a report to show this value of a flag. -/
def Flag.readValue : Flag → String → Option (List Occurrence)
  | .switch which, value =>
    if value = "true" then some [.switch which] else if value = "false" then some [] else none
  | .setting which, value => some [.setting which (Utf8.encode value)]
  | .help, _ | .version, _ => none

/-- The flag that a line is about. -/
def Flag.ofLine? (line : List Char) : Option Flag :=
  configuring.find? fun flag => flag.reportHead.toList.isPrefixOf line

/-- Reads one line of a report. -/
def readLine (line : List Char) : Option (List Occurrence) := do
  let flag ← Flag.ofLine? line
  flag.readValue (String.ofList (line.drop flag.reportHead.toList.length))

/-- Reads the lines of a report, one after the other. -/
def readLines : List (List Char) → Option (List Occurrence)
  | [] => some []
  | line :: rest => do
    let first ← readLine line
    let others ← readLines rest
    return first ++ others

/-- The arguments that a report asks for.  Nothing stands behind the newline of its last line. -/
def readReport (bytes : Bytes) : Option (List Bytes) := do
  let text ← Utf8.decode? bytes
  let occurrences ← readLines (split '\n' text.toList).dropLast
  return occurrences.map Occurrence.argument

/-- The line of a flag does not begin like the line of another flag. -/
theorem Flag.eq_of_reportHead_starts {left right : Flag} (hleft : left ∈ configuring)
    (hright : right ∈ configuring)
    (hstart : left.reportHead.toList <+: right.reportHead.toList) : left = right := by
  have hdistinct : ∀ a ∈ configuring, ∀ b ∈ configuring,
      a.reportHead.toList.isPrefixOf b.reportHead.toList = true → a = b := by
    decide +kernel
  exact hdistinct left hleft right hright (List.isPrefixOf_iff_prefix.2 hstart)

theorem Flag.ofLine?_reportHead_append {flag : Flag} (hflag : flag ∈ configuring)
    (value : List Char) : ofLine? (flag.reportHead.toList ++ value) = some flag := by
  have hhead : flag.reportHead.toList <+: flag.reportHead.toList ++ value :=
    List.prefix_append _ _
  cases hfound : ofLine? (flag.reportHead.toList ++ value) with
  | none =>
      have hnone := List.find?_eq_none.1 hfound flag hflag
      exact absurd (List.isPrefixOf_iff_prefix.2 hhead) hnone
  | some other =>
      have hmem : other ∈ configuring := List.mem_of_find?_eq_some hfound
      have hbegins := List.find?_some hfound
      have hother := List.isPrefixOf_iff_prefix.1 hbegins
      -- Both heads begin the line, so one of them begins the other.
      rcases List.prefix_or_prefix_of_prefix hother hhead with hstart | hstart
      · rw [eq_of_reportHead_starts hmem hflag hstart]
      · rw [eq_of_reportHead_starts hflag hmem hstart]

theorem readLine_reportHead_append {flag : Flag} (hflag : flag ∈ Flag.configuring)
    (value : String) : readLine (flag.reportHead ++ value).toList = flag.readValue value := by
  rw [String.toList_append, readLine, Flag.ofLine?_reportHead_append hflag, Option.bind_eq_bind,
    Option.bind_some, List.drop_left, String.ofList_toList]

namespace Configuration

variable {config : Configuration}

/-- The value that a report shows for a flag. -/
def reported? (config : Configuration) : Flag → Option String
  | .switch which => some (switchText (config.isOn which))
  | .setting .stdlib => some config.stdlibPath.text
  | .setting .arch => some config.arch
  | .setting .files => some config.sourceFiles.text
  | .setting (.phase slot) => (config.phases.get slot).map Phase.name
  | .help | .version => none

/-- A report has a line for each flag that it shows a value for, in the order of help. -/
theorem reportLines_eq_filterMap (config : Configuration) :
    config.reportLines =
      Flag.configuring.filterMap fun flag =>
        (config.reported? flag).map (flag.reportHead ++ ·) := by
  rw [Flag.configuring, List.filterMap_append, List.filterMap_map, reportLines,
    PhaseControl.requests, List.map_filterMap]
  congr 1
  apply congrArg (List.filterMap · PhaseSlot.all)
  funext slot
  cases hphase : config.phases.get slot with
  | none => simp [reported?, hphase]
  | some phase =>
      simp [reported?, hphase, Flag.reportHead, Flag.reportLabel, Flag.name, Setting.name]

theorem readValue_reported? {flag : Flag} {value : String}
    (hvalue : config.reported? flag = some value) :
    flag.readValue value = some (config.occurrence? flag).toList := by
  cases flag with
  | switch which =>
      cases hvalue
      cases hon : config.isOn which <;> simp [Flag.readValue, occurrence?, switchText, hon]
  | setting which =>
      cases which with
      | stdlib | arch | files =>
          cases hvalue
          rfl
      | phase slot =>
          obtain ⟨phase, hphase, rfl⟩ := Option.map_eq_some_iff.1 hvalue
          simp [Flag.readValue, occurrence?, value?, hphase]
  | help | version => cases hvalue

theorem occurrence?_of_reported?_eq_none {flag : Flag} (hnone : config.reported? flag = none) :
    config.occurrence? flag = none := by
  cases flag with
  | switch which => cases hnone
  | setting which =>
      cases which with
      | stdlib | arch | files => cases hnone
      | phase slot => simp [occurrence?, value?, Option.map_eq_none_iff.1 hnone]
  | help | version => rfl

/-- Reading the lines of a configuration gives what asks for it. -/
theorem readLines_reportLines (config : Configuration) :
    readLines (config.reportLines.map String.toList) = some config.occurrences := by
  have hflags : ∀ flags : List Flag, (∀ flag ∈ flags, flag ∈ Flag.configuring) →
      readLines ((flags.filterMap fun flag =>
        (config.reported? flag).map (flag.reportHead ++ ·)).map String.toList) =
        some (flags.filterMap config.occurrence?) := by
    intro flags hconfiguring
    induction flags with
    | nil => rfl
    | cons flag rest ih =>
        obtain ⟨hflag, hrest⟩ := List.forall_mem_cons.1 hconfiguring
        cases hvalue : config.reported? flag with
        | none =>
            rw [List.filterMap_cons_none (by rw [hvalue, Option.map_none]), ih hrest,
              List.filterMap_cons_none (occurrence?_of_reported?_eq_none hvalue)]
        | some value =>
            rw [List.filterMap_cons_some (by rw [hvalue, Option.map_some]), List.map_cons,
              readLines, readLine_reportHead_append hflag, readValue_reported? hvalue, ih hrest]
            cases hoccurrence : config.occurrence? flag with
            | none => rw [List.filterMap_cons_none hoccurrence]; rfl
            | some occurrence => rw [List.filterMap_cons_some hoccurrence]; rfl
  rw [reportLines_eq_filterMap]
  exact hflags Flag.configuring fun flag hflag => hflag

/-- A report whose values keep to their lines is read as the canonical line. -/
theorem readReport_writeReport (hline : config.OneLine) :
    readReport (config.writeReport .unlimited).1.held =
      some (config.occurrences.map Occurrence.argument) := by
  rw [writeReport_unlimited, readReport, Utf8.decode?_encode, Option.bind_eq_bind, Option.bind_some,
    split_report_iff.2 hline, List.dropLast_concat, readLines_reportLines]
  rfl

/-- A report whose values keep to their lines is loaded back: what it is read as gives the same
configuration under every program name.  So no other such configuration has the same report. -/
theorem load_readReport (hline : config.OneLine) :
    (∃ arguments, readReport (config.writeReport .unlimited).1.held = some arguments ∧
        ∀ program, load (program :: arguments) = .ok config) ∧
      ∀ other : Configuration, other.OneLine →
        (other.writeReport .unlimited).1.held = (config.writeReport .unlimited).1.held →
          other = config := by
  refine ⟨⟨_, readReport_writeReport hline, config.load_occurrences⟩, ?_⟩
  intro other hother hsame
  have hread := readReport_writeReport hother
  rw [hsame, readReport_writeReport hline] at hread
  have hload := other.load_occurrences []
  rw [← Option.some.inj hread, config.load_occurrences []] at hload
  exact (Except.ok.inj hload).symm

/-- A configuration whose values look like flags, like starts of lines or like nothing at all. -/
def disguised : Configuration where
  shakeTree := false
  stdlibPath := ⟨"-=stop flag: after_typing"⟩
  arch := ""
  emitIr := true
  sourceFiles := ⟨"--files=arch flag: x64"⟩
  phases := { stop := some .afterLegalize, emitStats := some .afterParsing }

theorem load_readReport_disguised :
    load (["frontend", "--emit_ir", "--emit_stats", "after_parsing", "-F--files=arch flag: x64",
        "--arch=", "--stdlib=-=stop flag: after_typing", "--stop=after_legalize"].map
      Utf8.encode) = .ok disguised ∧
    disguised.OneLine ∧
    (∃ arguments, readReport (disguised.writeReport .unlimited).1.held = some arguments ∧
      ∀ program, load (program :: arguments) = .ok disguised) ∧
    ∀ other : Configuration, other.OneLine →
      (other.writeReport .unlimited).1.held = (disguised.writeReport .unlimited).1.held →
        other = disguised := by
  have hline : disguised.OneLine := by decide
  exact ⟨rfl, hline, load_readReport hline⟩

/-- A newline lets a value take the line of a request. -/
example :
    (Configuration.mk false ⟨"./Lib"⟩ "x64" false ⟨"main.cw\nstop flag: after_typing"⟩ {}).report =
      (Configuration.mk false ⟨"./Lib"⟩ "x64" false ⟨"main.cw"⟩
        { stop := some .afterTyping }).report := by
  decide

end Configuration

end CompilerDriver
