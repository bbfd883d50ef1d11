import CompilerDriver.Proofs.CommandLine.Canonical

/-!
A missing input file.  A line is refused for it exactly when everything else about the line is in
order: it splits into occurrences that can all be recorded, and none of them gives an input file
(`parse_missing_iff`).  So such a line is completed by any input file in front of it, and nothing
but the input file of the configuration depends on which one that is (`load_missing_iff`).
-/

namespace CompilerDriver

/-- Occurrences that can all be recorded and give no input file. -/
structure LacksFiles (occurrences : List Occurrence) : Prop extends Recordable occurrences where
  absent : .setting .files ∉ occurrences.map Occurrence.flag

/-- What lacks an input file becomes acceptable by one, and nothing else does. -/
theorem acceptable_cons_files_iff {occurrences : List Occurrence} (text : String) :
    Acceptable (.setting .files (Utf8.encode text) :: occurrences) ↔ LacksFiles occurrences := by
  constructor
  · intro hacceptable
    have hdistinct := hacceptable.distinct
    rw [List.map_cons, List.nodup_cons] at hdistinct
    refine ⟨⟨hdistinct.2, ?_⟩, hdistinct.1⟩
    intro occurrence hmem
    exact hacceptable.valid occurrence (List.mem_cons_of_mem _ hmem)
  · intro hlacks
    have hvalid : Occurrence.Valid (.setting .files (Utf8.encode text)) := ⟨text, rfl⟩
    refine ⟨⟨?_, ?_⟩, List.mem_cons_self⟩
    · rw [List.map_cons, List.nodup_cons]
      exact ⟨hlacks.absent, hlacks.distinct⟩
    · rw [List.forall_mem_cons]
      exact ⟨hvalid, hlacks.valid⟩

section missing

variable {arguments : List Bytes}

/-- The input file is missing exactly from the lines that lack nothing else. -/
theorem parse_missing_iff :
    (parse arguments).mapError Fault.kind = .error .missingRequired ↔
      ∃ spellings, SplitsInto arguments spellings ∧
        LacksFiles (spellings.map Spelling.occurrence) := by
  constructor
  · intro hmissing
    have hkind : ∀ fault, parse arguments = .error fault → fault.kind = .missingRequired := by
      intro fault hparse
      rw [hparse] at hmissing
      exact Except.error.inj hmissing
    obtain ⟨state, last, hrun, hsettled⟩ := exists_settled_of_parse hkind
    obtain ⟨spellings, hsplits, hlast⟩ := exists_splitsInto_of_settled hrun hsettled
    refine ⟨spellings, hsplits, hlast.recordable, ?_⟩
    intro hfiles
    obtain ⟨config, hconfig⟩ := hlast.exists_conclude_iff.2 hfiles
    rw [parse_of_settled hrun hsettled, hconfig] at hmissing
    cases hmissing
  · rintro ⟨spellings, hsplits, hlacks⟩
    obtain ⟨state, hrecord⟩ := ParseState.exists_recordAll_iff.2 hlacks.toRecordable
    have hparse : parse arguments = state.conclude := by
      rw [parse_of_splitsInto hsplits, hrecord]
      rfl
    cases hconclude : state.conclude with
    | ok config =>
        have hfiles :=
          (ParseState.recorded_of_recordAll hrecord).exists_conclude_iff.1 ⟨config, hconclude⟩
        exact absurd hfiles hlacks.absent
    | error fault =>
        rw [hparse, hconclude]
        exact congrArg Except.error (ParseState.kind_of_conclude hconclude)

/-- A line that lacks nothing but an input file is completed by any one in front of it. -/
theorem exists_parse_of_lacksFiles {spellings : List Spelling}
    (hsplits : SplitsInto arguments spellings)
    (hlacks : LacksFiles (spellings.map Spelling.occurrence)) (text : String) :
    ∃ config,
      parse ((Compact.attached .files (Utf8.encode text)).argument :: arguments) = .ok config ∧
        config.Reflects
          (.setting .files (Utf8.encode text) :: spellings.map Spelling.occurrence) := by
  have hwhole : SplitsInto ((Compact.attached .files (Utf8.encode text)).argument :: arguments)
      (.compact (.attached .files (Utf8.encode text)) :: spellings) :=
    splitsInto_compact_cons_iff.2 ⟨rfl, hsplits⟩
  obtain ⟨config, hparse⟩ :=
    exists_parse_of_splitsInto hwhole ((acceptable_cons_files_iff text).2 hlacks)
  exact ⟨config, hparse, reflects_of_splitsInto hwhole hparse⟩

theorem parse_missing_iff_exists_parse (text : String) :
    (parse arguments).mapError Fault.kind = .error .missingRequired ↔ ∃ config,
      parse ((Compact.attached .files (Utf8.encode text)).argument :: arguments) = .ok config := by
  rw [parse_missing_iff]
  constructor
  · rintro ⟨spellings, hsplits, hlacks⟩
    obtain ⟨config, hparse, _⟩ := exists_parse_of_lacksFiles hsplits hlacks text
    exact ⟨config, hparse⟩
  · rintro ⟨config, hparse⟩
    obtain ⟨whole, hwhole, hacceptable⟩ := exists_splitsInto_of_parse hparse
    obtain ⟨first, spellings, rfl, hfirst, hsplits⟩ := hwhole.exists_of_cons
    refine ⟨spellings, hsplits, (acceptable_cons_files_iff text).1 ?_⟩
    rw [List.map_cons, Spelling.occurrence, hfirst] at hacceptable
    exact hacceptable

end missing

namespace Configuration

variable {config : Configuration}

theorem value?_with_sourceFiles (config : Configuration) (path : Path) {setting : Setting}
    (hsetting : setting ≠ .files) :
    value? { config with sourceFiles := path } setting = config.value? setting := by
  cases setting with
  | files => exact absurd rfl hsetting
  | stdlib | arch | phase slot => rfl

/-- Another input file is reflected by exchanging the input file alone. -/
theorem Reflects.with_sourceFiles {occurrences : List Occurrence} {value : Bytes}
    (hreflects : config.Reflects (.setting .files value :: occurrences))
    (habsent : .setting .files ∉ occurrences.map Occurrence.flag) (text : String) :
    Reflects { config with sourceFiles := ⟨text⟩ }
      (.setting .files (Utf8.encode text) :: occurrences) where
  switches which := by
    have hswitch : isOn { config with sourceFiles := ⟨text⟩ } which = config.isOn which := by
      cases which <;> rfl
    rw [hswitch, hreflects.switches]
    simp
  given setting other hgiven := by
    rcases List.mem_cons.1 hgiven with hfiles | hmem
    · cases hfiles
      rfl
    · have hsetting : setting ≠ .files := by
        rintro rfl
        exact habsent (List.mem_map_of_mem hmem)
      rw [value?_with_sourceFiles config _ hsetting]
      exact hreflects.given setting other (List.mem_cons_of_mem _ hmem)
  absent setting hnone := by
    have hsetting : setting ≠ .files := by
      rintro rfl
      exact hnone _ List.mem_cons_self
    rw [value?_with_sourceFiles config _ hsetting]
    apply hreflects.absent
    intro other hmem
    rcases List.mem_cons.1 hmem with hfiles | hmem
    · exact hsetting (Occurrence.setting.inj hfiles).1
    · exact hnone other (List.mem_cons_of_mem _ hmem)

end Configuration

/-- The argument that gives an input file by its long name. -/
def filesArgument (text : String) : Bytes :=
  Utf8.encode ("--files=" ++ text)

theorem filesArgument_eq (text : String) :
    filesArgument text = (Compact.attached .files (Utf8.encode text)).argument := by
  rw [filesArgument, Utf8.encode_append]
  rfl

/-- An input file is missing exactly from the lines that are accepted when one is put in front of
them, whichever it is.  The configuration is then the same for each but for that file. -/
theorem load_missing_iff (program : Bytes) (arguments : List Bytes) :
    (∀ text, outcome (load (program :: arguments)) = .error .missingRequired ↔
        ∃ config, load (program :: filesArgument text :: arguments) = .ok config) ∧
      (outcome (load (program :: arguments)) = .error .missingRequired →
        ∃ config : Configuration, ∀ text,
          load (program :: filesArgument text :: arguments) =
            .ok { config with sourceFiles := ⟨text⟩ }) := by
  simp only [outcome_load, load_eq_ok_iff, filesArgument_eq]
  refine ⟨parse_missing_iff_exists_parse, ?_⟩
  intro hmissing
  obtain ⟨spellings, hsplits, hlacks⟩ := parse_missing_iff.1 hmissing
  obtain ⟨config, _, hconfig⟩ := exists_parse_of_lacksFiles hsplits hlacks ""
  refine ⟨config, fun text => ?_⟩
  obtain ⟨other, hparse, hother⟩ := exists_parse_of_lacksFiles hsplits hlacks text
  rw [hparse, hother.eq (hconfig.with_sourceFiles hlacks.absent text)]

/-- A line that holds its last value back, and is closed. -/
theorem load_missing_closed :
    let arguments := ["--emit_ir", "--stop", "after_typing", "--"].map Utf8.encode
    outcome (load (Utf8.encode "cw" :: arguments)) = .error .missingRequired ∧
      ∃ config : Configuration, ∀ text,
        load (Utf8.encode "cw" :: filesArgument text :: arguments) =
          .ok { config with sourceFiles := ⟨text⟩ } := by
  intro arguments
  have hmissing : outcome (load (Utf8.encode "cw" :: arguments)) = .error .missingRequired := rfl
  exact ⟨hmissing, (load_missing_iff (Utf8.encode "cw") arguments).2 hmissing⟩

end CompilerDriver
