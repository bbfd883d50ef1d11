import CompilerDriver.Configuration.Report
import CompilerDriver.CommandLine.Load

/-!
The lines of a report.  Each item is written as one terminated line, so the report splits at its
newlines into its items as long as no value holds a newline itself (`split_report_iff`).  A newline
in a value is not escaped: each one breaks a line in two, and what stands behind it may read like
another item.
-/

namespace CompilerDriver.Configuration

/-- The lines that a report should have: five for the flags, one for each request that is set. -/
def reportLines (config : Configuration) : List String :=
  ["shake tree flag: " ++ switchText config.shakeTree,
   "stdlib flag: " ++ config.stdlibPath.text,
   "arch flag: " ++ config.arch,
   "emit_ir flag: " ++ switchText config.emitIr,
   "source files flag: " ++ config.sourceFiles.text]
    ++ config.phases.requests.map fun (slot, phase) => slot.name ++ " flag: " ++ phase.name

/-- The values that may be any text. -/
def freeTexts (config : Configuration) : List String :=
  [config.stdlibPath.text, config.arch, config.sourceFiles.text]

/-- No value reaches over the end of its line. -/
def OneLine (config : Configuration) : Prop :=
  ∀ text ∈ config.freeTexts, '\n' ∉ text.toList

instance (config : Configuration) : Decidable config.OneLine :=
  inferInstanceAs (Decidable (∀ text ∈ config.freeTexts, _))

/-- How many newlines the values hold. -/
def newlines (config : Configuration) : Nat :=
  (config.freeTexts.flatMap String.toList).count '\n'

/-- One item on its line. -/
def itemLine : String × String → String
  | (label, value) => label ++ " flag: " ++ value

theorem reportLines_eq_map (config : Configuration) :
    config.reportLines = config.reportItems.map itemLine := by
  rw [reportItems, List.map_append, List.map_map]
  rfl

theorem toList_report (config : Configuration) :
    config.report.toList =
      (config.reportLines.map String.toList).flatMap (· ++ ['\n']) := by
  rw [report, reportPieces, String.toList_join, List.flatMap_assoc, reportLines_eq_map,
    List.map_map, List.flatMap_map]
  apply congrArg config.reportItems.flatMap
  funext ⟨label, value⟩
  simp [itemPieces, itemLine]

theorem length_reportLines (config : Configuration) :
    config.reportLines.length = 5 + config.phases.requests.length := by
  rw [reportLines, List.length_append, List.length_map]
  rfl

theorem count_newline_label {label : String} (hlabel : '\n' ∉ label.toList) (text : String) :
    (label ++ text).toList.count '\n' = text.toList.count '\n' := by
  rw [String.toList_append, List.count_append, List.count_eq_zero.2 hlabel, Nat.zero_add]

theorem newline_notMem_request (slot : PhaseSlot) (phase : Phase) :
    '\n' ∉ (slot.name ++ " flag: " ++ phase.name).toList := by
  have hslot : '\n' ∉ slot.name.toList := by cases slot <;> decide
  have hphase : '\n' ∉ phase.name.toList := by cases phase <;> decide
  have hflag : '\n' ∉ " flag: ".toList := by decide
  rw [String.toList_append, String.toList_append, List.mem_append, List.mem_append]
  exact not_or.2 ⟨not_or.2 ⟨hslot, hflag⟩, hphase⟩

/-- The newlines inside the lines are those of the values. -/
theorem count_newline_reportLines (config : Configuration) :
    (config.reportLines.flatMap String.toList).count '\n' = config.newlines := by
  have hswitch : ∀ on, (switchText on).toList.count '\n' = 0 := by decide
  have hrequests : ∀ requests : List (PhaseSlot × Phase),
      ((requests.map fun (slot, phase) => slot.name ++ " flag: " ++ phase.name).flatMap
        String.toList).count '\n' = 0 := by
    intro requests
    rw [List.flatMap_map, List.count_eq_zero, List.mem_flatMap]
    rintro ⟨⟨slot, phase⟩, _, hmem⟩
    exact newline_notMem_request slot phase hmem
  rw [reportLines, List.flatMap_append, List.count_append, hrequests]
  simp only [List.flatMap_cons, List.flatMap_nil, List.count_append, List.count_nil]
  rw [count_newline_label (by decide), count_newline_label (by decide),
    count_newline_label (by decide), count_newline_label (by decide),
    count_newline_label (by decide), hswitch, hswitch]
  simp only [newlines, freeTexts, List.flatMap_cons, List.flatMap_nil, List.count_append,
    List.count_nil]
  omega

theorem count_newline_eq_zero_iff {texts : List String} :
    (texts.flatMap String.toList).count '\n' = 0 ↔ ∀ text ∈ texts, '\n' ∉ text.toList := by
  rw [List.count_eq_zero, List.mem_flatMap]
  exact ⟨fun hnone text htext hmem => hnone ⟨text, htext, hmem⟩,
    fun hline ⟨text, htext, hmem⟩ => hline text htext hmem⟩

/-- A report splits into its lines exactly when each value keeps to its line. -/
theorem split_report_iff {config : Configuration} :
    split '\n' config.report.toList = config.reportLines.map String.toList ++ [[]] ↔
      config.OneLine := by
  rw [toList_report, split_flatMap_terminated_iff, List.forall_mem_map,
    ← count_newline_eq_zero_iff, count_newline_reportLines]
  exact count_newline_eq_zero_iff

/-- Each newline in a value makes one line more. -/
theorem length_split_report (config : Configuration) :
    (split '\n' config.report.toList).length =
      config.reportLines.length + config.newlines + 1 := by
  rw [length_split, toList_report, count_flatMap_terminated, ← List.flatMap_def,
    count_newline_reportLines, List.length_map, Nat.add_comm config.newlines]

theorem writeReport_unlimited (config : Configuration) :
    config.writeReport .unlimited =
      ({ Sink.unlimited with held := Utf8.encode config.report }, none) := by
  rw [writeReport, Sink.writeAll_of_room_eq_none rfl, report, Utf8.encode_join]
  rfl

/-- What is written is one line for each item, and one more for each newline in a value.  So it
consists of just the lines of the items exactly when no value holds a newline. -/
theorem writeReport_lines (config : Configuration) :
    config.writeReport .unlimited =
        ({ Sink.unlimited with held := Utf8.encode config.report }, none) ∧
      config.reportLines.length = 5 + config.phases.requests.length ∧
      (split '\n' config.report.toList).length =
        config.reportLines.length + config.newlines + 1 ∧
      (split '\n' config.report.toList = config.reportLines.map String.toList ++ [[]] ↔
        config.OneLine) :=
  ⟨writeReport_unlimited config, length_reportLines config, length_split_report config,
    split_report_iff⟩

/-- So an accepted path with a newline in it breaks its line, here into one that reads like a
request. -/
theorem not_forall_load_report_lines :
    ¬∀ (arguments : List Bytes) (config : Configuration), load arguments = .ok config →
      split '\n' config.report.toList = config.reportLines.map String.toList ++ [[]] := by
  intro hlines
  have hload : load (["frontend", "-F", "main.cw\nstop flag: after_typing"].map Utf8.encode) =
      .ok ⟨false, ⟨"./Lib"⟩, "x64", false, ⟨"main.cw\nstop flag: after_typing"⟩, {}⟩ := rfl
  have hline := split_report_iff.1 (hlines _ _ hload)
  revert hline
  decide

end CompilerDriver.Configuration
