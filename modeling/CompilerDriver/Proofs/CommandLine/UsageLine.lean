import CompilerDriver.Proofs.CommandLine.ErrorText
import CompilerDriver.Proofs.CommandLine.Grammar
import CompilerDriver.Proofs.CommandLine.NamedFlags

/-!
The usage line of a line without an input file.  It shows the flags that the line names, each once
and in the order in which they stand, whatever their spellings and values, the one that only the end
of the line settles included (`load_missing_usage`).
-/

namespace CompilerDriver

open Terminal

theorem displayAll_cons (flag : Flag) (flags : List Flag) :
    displayAll " " (flag :: flags) =
      flag.display ++ String.join (flags.map fun other => " " ++ other.display) := by
  induction flags generalizing flag with
  | nil => simp [displayAll]
  | cons other rest ih =>
      have hfirst : displayAll " " (flag :: other :: rest) =
          flag.display ++ " " ++ displayAll " " (other :: rest) := String.intercalate_cons_cons
      rw [hfirst, ih, List.map_cons, String.join_cons]
      simp only [String.append_assoc]

/-- The required flag is shown in front, and the others behind it when it is none of them. -/
theorem displayAll_given {flags : List Flag} (hfiles : .setting .files ∉ flags) :
    displayAll " " (.setting .files :: flags.filter fun flag => flag ≠ .setting .files) =
      (Flag.setting .files).display ++ String.join (flags.map fun flag => " " ++ flag.form) := by
  have hothers : flags.filter (fun flag => flag ≠ .setting .files) = flags := by
    apply List.filter_eq_self.2
    intro flag hflag
    exact decide_eq_true fun hsame => hfiles (hsame ▸ hflag)
  rw [hothers, displayAll_cons]
  simp only [Flag.display_eq_form]

/-- Flags behind the required one in a usage line, and the end of that line. -/
def givenFlags (flags : List Flag) : String :=
  " --files <FILE>" ++ String.join (flags.map fun flag => " " ++ flag.form) ++ "\n"

/-- What is said about a missing input file before the name of the program. -/
def missingOpening : String :=
  "error: the following required arguments were not provided:\n  --files <FILE>\n\nUsage: "

/-- The lines that report a missing input file, for a program of the given name. -/
def missingLines (program : String) (flags : List Flag) : String :=
  missingOpening ++ program ++ givenFlags flags

theorem plain_givenFlags (flags : List Flag) : Plain (givenFlags flags) := by
  have hfiles : Plain " --files <FILE>" := by decide
  have hspace : Plain " " := by decide
  have hend : Plain "\n" := by decide
  refine (hfiles.append (plain_join ?_)).append hend
  intro shown hshown
  obtain ⟨flag, _, rfl⟩ := List.mem_map.1 hshown
  exact hspace.append (flag.display_eq_form ▸ flag.plain_display)

namespace Fault

theorem text_missingFiles (program : String) {flags : List Flag}
    (hfiles : .setting .files ∉ flags) :
    (missingFiles flags).text program =
      missingOpening ++ (userWord program ++ (givenFlags flags
        ++ "\nFor more information, try '--help'.\n")) := by
  have hopening : "error: the following required arguments were not provided:\n  "
      ++ (Flag.setting .files).display ++ "\n\n" ++ "Usage: " = missingOpening := by decide +kernel
  have hfirst : " " ++ (Flag.setting .files).display = " --files <FILE>" := by decide +kernel
  have hend : tryHelp = "\n" ++ "\nFor more information, try '--help'.\n" := by decide +kernel
  -- The literals are compared piece by piece here, and put together with names in their place.
  have hassoc : ∀ {start shown gap usage opening list first others last line rest : String} (name),
      list = shown ++ others → start ++ shown ++ gap ++ usage = opening → " " ++ shown = first →
        last = line ++ rest →
          start ++ shown ++ gap ++ (usage ++ name ++ " " ++ list) ++ last =
            opening ++ (name ++ (first ++ others ++ line ++ rest)) := by
    rintro start shown gap usage _ _ _ others _ line rest name rfl rfl rfl rfl
    simp only [String.append_assoc]
  exact hassoc (userWord program) (displayAll_given hfiles) hopening hfirst hend

/-- The lines stand first in the message when the name of the program is plain. -/
theorem beginsWith_missingLines {program : String} (hprogram : Plain program) {flags : List Flag}
    (hfiles : .setting .files ∉ flags) :
    BeginsWith (missingLines program flags)
      ((missingFiles flags).toUsageError program).message := by
  have hopening : Plain missingOpening := by decide
  apply beginsWith_message rfl
  rw [text_missingFiles program hfiles]
  exact beginsWith_strip hopening hprogram (plain_givenFlags flags)

end Fault

/-- When only the input file is missing, no flag is named twice, and the flags are shown in order. -/
theorem parse_missing {arguments : List Bytes}
    (hmissing : (parse arguments).mapError Fault.kind = .error .missingRequired) :
    (namedFlags arguments).Nodup ∧ .setting .files ∉ namedFlags arguments ∧
      parse arguments = .error (.missingFiles (namedFlags arguments)) := by
  have hkind : ∀ fault, parse arguments = .error fault → fault.kind = .missingRequired := by
    intro fault hparse
    rw [hparse] at hmissing
    exact Except.error.inj hmissing
  obtain ⟨state, last, hrun, hsettled⟩ := exists_settled_of_parse hkind
  obtain ⟨spellings, _, hlast⟩ := exists_splitsInto_of_settled hrun hsettled
  have hdistinct := hlast.recordable.distinct
  have hfiles := hlast.exists_conclude_iff
  rw [← hlast.given, given_of_settled hrun hsettled] at hdistinct hfiles
  rw [parse_of_settled hrun hsettled] at hmissing ⊢
  obtain ⟨fault, hconclude, _⟩ := mapError_eq_error_iff.1 hmissing
  refine ⟨hdistinct, ?_, ?_⟩
  · rw [← hfiles, hconclude]
    rintro ⟨config, hconfig⟩
    cases hconfig
  · obtain ⟨_, rfl⟩ := ParseState.conclude_eq_error_iff.1 hconclude
    rw [hconclude, given_of_settled hrun hsettled]

/-- A missing input file is reported with the flags that the line names, each once and in the order
in which they stand, and with nothing else on the usage line. -/
theorem load_missing_usage (program : Bytes)
    (hname : ∀ c ∈ (displayName (some program)).toList, ¬IsControl c) {arguments : List Bytes}
    (hmissing : outcome (load (program :: arguments)) = .error .missingRequired) :
    (namedFlags arguments).Nodup ∧
      ∃ message, load (program :: arguments) = .error ⟨.missingRequired, message⟩ ∧
        BeginsWith (missingLines (displayName (some program)) (namedFlags arguments)) message := by
  rw [outcome_load] at hmissing
  obtain ⟨hdistinct, hfiles, hparse⟩ := parse_missing hmissing
  have hbegins := Fault.beginsWith_missingLines (plain_of_not_isControl hname) hfiles
  exact ⟨hdistinct, _, load_eq_error_iff.2 ⟨_, hparse, rfl⟩, hbegins⟩

/-- Flags out of their usual order, one of them held back behind a closed line. -/
theorem load_missing_usage_held :
    let program := Utf8.encode "bin/cw"
    let arguments := ["--stop", "after_typing", "--stdlib=", "--emit_ir", "--arch", "-", "--"].map
      Utf8.encode
    (∀ c ∈ (displayName (some program)).toList, ¬IsControl c) ∧
      outcome (load (program :: arguments)) = .error .missingRequired ∧
      ∃ message, load (program :: arguments) = .error ⟨.missingRequired, message⟩ ∧
        BeginsWith ("error: the following required arguments were not provided:\n  --files <FILE>\n\n"
          ++ "Usage: cw --files <FILE> --stop <PHASE> --stdlib <PATH> --emit_ir --arch <ARCH>\n")
          message := by
  intro program arguments
  have hshown : displayName (some program) = "cw" := by decide +kernel
  have hname : ∀ c ∈ (displayName (some program)).toList, ¬IsControl c := by
    rw [hshown]
    simp [IsControl]
  have hmissing : outcome (load (program :: arguments)) = .error .missingRequired := rfl
  have hnamed : namedFlags arguments =
      [.setting (.phase .stop), .setting .stdlib, .switch .emitIr, .setting .arch] := by
    decide +kernel
  have hlines : missingLines "cw"
      [.setting (.phase .stop), .setting .stdlib, .switch .emitIr, .setting .arch] =
        "error: the following required arguments were not provided:\n  --files <FILE>\n\n"
          ++ "Usage: cw --files <FILE> --stop <PHASE> --stdlib <PATH> --emit_ir --arch <ARCH>\n" := by
    decide +kernel
  obtain ⟨_, message, hload, hbegins⟩ := load_missing_usage program hname hmissing
  rw [hshown, hnamed, hlines] at hbegins
  exact ⟨hname, hmissing, message, hload, hbegins⟩

end CompilerDriver
