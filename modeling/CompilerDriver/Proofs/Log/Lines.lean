import CompilerDriver.Invocation
import CompilerDriver.Proofs.Configuration.Dump

/-!
The lines of a log.  An event is logged as one line without control characters, since every text of
the user's in it is quoted (`Event.every_body`).  So the log of a run splits at its newlines into
the events that pass the filter, whatever the configuration holds (`run_stderr_entries`).
-/

namespace CompilerDriver

open Quoted

namespace Log

variable {filter : Filter} {config : Configuration}

/-- The events of a configuration that pass a filter. -/
def shown (filter : Filter) (config : Configuration) : List Event :=
  (Event.ofConfiguration config).filter fun event =>
    filter.admits Event.target event.fields event.level

/-- The lines of a log, without their newlines. -/
def entries (log : String) : List String :=
  (split '\n' log.toList).dropLast.map String.ofList

namespace Event

/-- What stands on the line of an event. -/
def body (event : Event) : String :=
  event.level.heading ++ " " ++ event.text

theorem every_text (event : Event) : Every (fun c => ¬IsControl c) event.text := by
  cases event with
  | loaded config =>
      have hlead : Every (fun c => ¬IsControl c) "loaded configuration config=" := by decide
      have hsigns : Every (fun c => ¬IsControl c) Layout.oneLine.signs := by decide
      have hwords : ∀ word ∈ dumpWords, Every (fun c => ¬IsControl c) word := by decide
      exact hlead.append (Configuration.every_dump hsigns hwords fun text _ => every_quote text)
  | unknownArch arch =>
      have hlead : Every (fun c => ¬IsControl c)
          ("unrecognized architecture, expected one of " ++ Target.knownNames ++ " arch=") := by
        decide
      exact hlead.append (every_quote arch)
  | earlyHalt phase =>
      have hlead : Every (fun c => ¬IsControl c) "pipeline would halt early phase=" := by decide
      have hphase : Every (fun c => ¬IsControl c) phase.name := by cases phase <;> decide
      exact hlead.append hphase

/-- No text of the user's brings a control character into a line. -/
theorem every_body (event : Event) : Every (fun c => ¬IsControl c) event.body := by
  have hheading : ∀ level : Level, Every (fun c => ¬IsControl c) level.heading := by
    intro level
    cases level <;> decide
  have hspace : Every (fun c => ¬IsControl c) " " := by decide
  exact ((hheading event.level).append hspace).append event.every_text

theorem length_ofConfiguration_le (config : Configuration) :
    (ofConfiguration config).length ≤ 3 := by
  unfold ofConfiguration
  cases config.phases.firstHalt? <;> split <;> simp

end Event

theorem length_shown_le (filter : Filter) (config : Configuration) :
    (shown filter config).length ≤ 3 :=
  Nat.le_trans (List.length_filter_le _ _) (Event.length_ofConfiguration_le config)

section terminated

variable {texts : List String}

theorem toList_join_terminated (texts : List String) :
    (String.join (texts.map (· ++ "\n"))).toList =
      (texts.map String.toList).flatMap (· ++ ['\n']) := by
  rw [String.toList_join, List.flatMap_map, List.flatMap_map]
  apply congrArg texts.flatMap
  funext text
  exact String.toList_append

theorem entries_join_terminated (htexts : ∀ text ∈ texts, '\n' ∉ text.toList) :
    entries (String.join (texts.map (· ++ "\n"))) = texts := by
  have hpieces : ∀ piece ∈ texts.map String.toList, '\n' ∉ piece := List.forall_mem_map.2 htexts
  rw [entries, toList_join_terminated, split_flatMap_terminated_iff.2 hpieces,
    List.dropLast_concat, List.map_map]
  simp

theorem count_newline_join_terminated (htexts : ∀ text ∈ texts, '\n' ∉ text.toList) :
    (String.join (texts.map (· ++ "\n"))).toList.count '\n' = texts.length := by
  have hnone : (texts.map String.toList).flatten.count '\n' = 0 := by
    rw [List.count_eq_zero, ← List.flatMap_def, List.mem_flatMap]
    rintro ⟨text, htext, hbreak⟩
    exact htexts text htext hbreak
  rw [toList_join_terminated, count_flatMap_terminated, hnone, List.length_map, Nat.zero_add]

end terminated

theorem lines_eq (filter : Filter) (config : Configuration) :
    lines filter config = ((shown filter config).map Event.body).map (· ++ "\n") := by
  rw [List.map_map]
  rfl

theorem newline_notMem_body {text : String} (htext : text ∈ (shown filter config).map Event.body) :
    '\n' ∉ text.toList := by
  obtain ⟨event, _, rfl⟩ := List.mem_map.1 htext
  exact fun hbreak => event.every_body _ hbreak (by decide)

end Log

namespace Invocation

variable {arguments : List Bytes} {config : Configuration}

theorem run_of_load_ok (hload : load arguments = .ok config) (setting : Option String) :
    run { arguments, logSetting := setting } =
      ⟨0, Utf8.encode config.report, String.join (Log.lines (.ofSetting setting) config)⟩ := by
  rw [run, hload]
  simp only [succeed, Configuration.writeReport_unlimited]

theorem run_of_load_error {fault : UsageError} (hload : load arguments = .error fault)
    (setting : Option String) :
    run { arguments, logSetting := setting } =
      ⟨fault.exitCode, Utf8.encode fault.message, ""⟩ := by
  rw [run, hload]
  rfl

theorem entries_stderr (hload : load arguments = .ok config) (setting : Option String) :
    Log.entries (run { arguments, logSetting := setting }).stderr =
      (Log.shown (.ofSetting setting) config).map Log.Event.body := by
  rw [run_of_load_ok hload, Log.lines_eq]
  exact Log.entries_join_terminated fun _ htext => Log.newline_notMem_body htext

theorem stderr_eq_join_entries (hload : load arguments = .ok config) (setting : Option String) :
    (run { arguments, logSetting := setting }).stderr = String.join
      ((Log.entries (run { arguments, logSetting := setting }).stderr).map (· ++ "\n")) := by
  rw [entries_stderr hload, run_of_load_ok hload, Log.lines_eq]

/-- No argument forges a line of the log, or reaches over the end of one: the log consists of the
lines of the events that pass the filter, and no line holds a control character. -/
theorem run_stderr_entries (hload : load arguments = .ok config) (setting : Option String) :
    let log := (run { arguments, logSetting := setting }).stderr
    let events := Log.shown (.ofSetting setting) config
    log = String.join ((Log.entries log).map (· ++ "\n")) ∧
      Log.entries log = events.map Log.Event.body ∧
      events.length ≤ 3 ∧
      log.toList.count '\n' = events.length ∧
      ∀ entry ∈ Log.entries log, Every (fun c => ¬IsControl c) entry := by
  intro log events
  have hentries : Log.entries log = events.map Log.Event.body := entries_stderr hload setting
  have hlog : log = String.join ((Log.entries log).map (· ++ "\n")) :=
    stderr_eq_join_entries hload setting
  refine ⟨hlog, hentries, Log.length_shown_le _ _, ?_, ?_⟩
  · rw [hlog, hentries, Log.count_newline_join_terminated fun _ => Log.newline_notMem_body,
      List.length_map]
  · rw [hentries, List.forall_mem_map]
    exact fun event _ => event.every_body

theorem run_stderr_entries_hostile :
    let log := (run {
      arguments := ["frontend", "--arch=x\n WARN \x1b[31m\"", "-F", "a\x9f\n"].map Utf8.encode,
      logSetting := some "debug" }).stderr
    (Log.entries log).length = 2 ∧ log.toList.count '\n' = 2 ∧
      ∀ entry ∈ Log.entries log, Every (fun c => ¬IsControl c) entry := by
  intro log
  have hload : load (["frontend", "--arch=x\n WARN \x1b[31m\"", "-F", "a\x9f\n"].map Utf8.encode) =
      .ok ⟨false, ⟨"./Lib"⟩, "x\n WARN \x1b[31m\"", false, ⟨"a\x9f\n"⟩, {}⟩ := rfl
  obtain ⟨_, hentries, _, hcount, hevery⟩ := run_stderr_entries hload (some "debug")
  have hevents : (Log.shown (.ofSetting (some "debug"))
      ⟨false, ⟨"./Lib"⟩, "x\n WARN \x1b[31m\"", false, ⟨"a\x9f\n"⟩, {}⟩).length = 2 := by
    decide +kernel
  exact ⟨by rw [hentries, List.length_map, hevents], hcount.trans hevents, hevery⟩

end Invocation

end CompilerDriver
