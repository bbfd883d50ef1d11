import CompilerDriver.Proofs.CommandLine.Grammar

/-!
The canonical line of a configuration.  It gives every flag the value that the configuration has for
it, each in a single argument and in the order of help.  Loading it gives the configuration back
(`load_occurrences`), so every configuration can be asked for; what carries this is that occurrences
determine the configuration that reflects them (`Reflects.eq`).
-/

namespace CompilerDriver

/-- An occurrence as a single argument. -/
def Occurrence.compact : Occurrence → Compact
  | .switch which => .switch which
  | .setting which value => .attached which value

def Occurrence.argument (occurrence : Occurrence) : Bytes :=
  occurrence.compact.argument

@[simp] theorem Occurrence.occurrence_compact (occurrence : Occurrence) :
    occurrence.compact.occurrence = occurrence := by
  cases occurrence <;> rfl

namespace Configuration

variable {config other : Configuration}

/-- The occurrence that gives a flag what a configuration has for it. -/
def occurrence? (config : Configuration) : Flag → Option Occurrence
  | .switch which => if config.isOn which then some (.switch which) else none
  | .setting which => (config.value? which).map (.setting which)
  | .help | .version => none

/-- The occurrences that ask for a configuration. -/
def occurrences (config : Configuration) : List Occurrence :=
  Flag.configuring.filterMap config.occurrence?

theorem flag_of_occurrence? {flag : Flag} {occurrence : Occurrence}
    (hoccurrence : config.occurrence? flag = some occurrence) : occurrence.flag = flag := by
  cases flag with
  | switch which =>
      obtain ⟨_, hsame⟩ := Option.ite_none_right_eq_some.1 hoccurrence
      cases hsame
      rfl
  | setting which =>
      obtain ⟨value, _, rfl⟩ := Option.map_eq_some_iff.1 hoccurrence
      rfl
  | help | version => cases hoccurrence

theorem mem_occurrences_iff {occurrence : Occurrence} :
    occurrence ∈ config.occurrences ↔ config.occurrence? occurrence.flag = some occurrence := by
  rw [occurrences, List.mem_filterMap]
  constructor
  · rintro ⟨flag, _, hoccurrence⟩
    rwa [flag_of_occurrence? hoccurrence]
  · intro hoccurrence
    refine ⟨occurrence.flag, ?_, hoccurrence⟩
    -- Every flag but help and version configures.
    have hflag := Flag.mem_all occurrence.flag
    rw [Flag.all, List.mem_append] at hflag
    rcases hflag with hflag | hflag
    · exact hflag
    · cases occurrence <;> simp [Occurrence.flag] at hflag

theorem switch_mem_occurrences_iff {which : Switch} :
    .switch which ∈ config.occurrences ↔ config.isOn which = true := by
  simp [mem_occurrences_iff, Occurrence.flag, occurrence?]

theorem setting_mem_occurrences_iff {which : Setting} {value : Bytes} :
    .setting which value ∈ config.occurrences ↔ config.value? which = some value := by
  simp [mem_occurrences_iff, Occurrence.flag, occurrence?]

/-- A configuration has no value that its setting does not admit. -/
theorem admits_of_value? {which : Setting} {value : Bytes}
    (hvalue : config.value? which = some value) : which.Admits value := by
  cases which with
  | stdlib | arch | files => exact ⟨_, (Option.some.inj hvalue).symm⟩
  | phase slot =>
      obtain ⟨phase, _, rfl⟩ := Option.map_eq_some_iff.1 hvalue
      exact ⟨phase, rfl⟩

theorem recordable_occurrences (config : Configuration) : Recordable config.occurrences where
  distinct := by
    have hdistinct : Flag.configuring.Nodup := by decide
    have hflags : ∀ flags : List Flag,
        ((flags.filterMap config.occurrence?).map Occurrence.flag).Sublist flags := by
      intro flags
      induction flags with
      | nil => exact .slnil
      | cons flag rest ih =>
          cases hoccurrence : config.occurrence? flag with
          | none =>
              rw [List.filterMap_cons_none hoccurrence]
              exact ih.cons flag
          | some occurrence =>
              rw [List.filterMap_cons_some hoccurrence, List.map_cons,
                flag_of_occurrence? hoccurrence]
              exact ih.cons_cons flag
    exact (hflags Flag.configuring).nodup hdistinct
  valid := by
    intro occurrence hmem
    cases occurrence with
    | switch which => trivial
    | setting which value => exact admits_of_value? (setting_mem_occurrences_iff.1 hmem)

theorem acceptable_occurrences (config : Configuration) : Acceptable config.occurrences where
  toRecordable := config.recordable_occurrences
  files := List.mem_map.2 ⟨_, setting_mem_occurrences_iff.2 rfl, rfl⟩

theorem reflects_occurrences (config : Configuration) : config.Reflects config.occurrences where
  switches _ := switch_mem_occurrences_iff.symm
  given _ _ := setting_mem_occurrences_iff.1
  absent := by
    intro which habsent
    have hnone : config.value? which = none := by
      apply Option.eq_none_iff_forall_ne_some.2
      intro value hvalue
      exact habsent value (setting_mem_occurrences_iff.2 hvalue)
    cases which with
    | stdlib | arch | files => cases hnone
    | phase slot => exact hnone

/-- A configuration is what its switches and its settings are. -/
theorem eq_of_views (hswitch : ∀ which, config.isOn which = other.isOn which)
    (hvalue : ∀ which, config.value? which = other.value? which) : config = other := by
  have htext : ∀ left right, some (Utf8.encode left) = some (Utf8.encode right) → left = right :=
    fun _ _ hsame => Utf8.encode_injective (Option.some.inj hsame)
  have hshakeTree : config.shakeTree = other.shakeTree := hswitch .shakeTree
  have hemitIr : config.emitIr = other.emitIr := hswitch .emitIr
  have hstdlib : config.stdlibPath = other.stdlibPath :=
    congrArg Path.mk (htext _ _ (hvalue .stdlib))
  have harch : config.arch = other.arch := htext _ _ (hvalue .arch)
  have hfiles : config.sourceFiles = other.sourceFiles :=
    congrArg Path.mk (htext _ _ (hvalue .files))
  have hphases : config.phases = other.phases := by
    apply PhaseControl.ext_get
    intro slot
    apply Option.map_injective _ (hvalue (.phase slot))
    intro first second hname
    exact Phase.name_injective (Utf8.encode_injective hname)
  cases config
  cases other
  simp_all

/-- Occurrences determine the configuration that reflects them. -/
theorem Reflects.eq {occurrences : List Occurrence} (hconfig : config.Reflects occurrences)
    (hother : other.Reflects occurrences) : config = other := by
  apply eq_of_views
  · intro which
    rw [Bool.eq_iff_iff, hconfig.switches, hother.switches]
  · intro which
    by_cases hgiven : ∃ value, .setting which value ∈ occurrences
    · obtain ⟨value, hmem⟩ := hgiven
      rw [hconfig.given which value hmem, hother.given which value hmem]
    · have habsent : ∀ value, .setting which value ∉ occurrences := not_exists.1 hgiven
      rw [hconfig.absent which habsent, hother.absent which habsent]

/-- The canonical line is split into its occurrences. -/
theorem splitsInto_occurrences (config : Configuration) :
    SplitsInto (config.occurrences.map Occurrence.argument)
      (config.occurrences.map fun occurrence => .compact occurrence.compact) := by
  left
  rw [List.flatMap_map, List.map_eq_flatMap]
  rfl

/-- Every configuration is loaded from its canonical line, whatever the name of the program. -/
theorem load_occurrences (config : Configuration) (program : Bytes) :
    load (program :: config.occurrences.map Occurrence.argument) = .ok config := by
  have hsplits := config.splitsInto_occurrences
  have hsame : (config.occurrences.map fun occurrence => Spelling.compact occurrence.compact).map
      Spelling.occurrence = config.occurrences := by
    rw [List.map_map]
    exact (List.map_congr_left fun occurrence _ => occurrence.occurrence_compact).trans
      (List.map_id _)
  obtain ⟨loaded, hparse⟩ := exists_parse_of_splitsInto hsplits (by
    rw [hsame]
    exact config.acceptable_occurrences)
  have hreflects := reflects_of_splitsInto hsplits hparse
  rw [hsame] at hreflects
  rw [load_eq_ok_iff, hparse, hreflects.eq config.reflects_occurrences]

end Configuration

end CompilerDriver
