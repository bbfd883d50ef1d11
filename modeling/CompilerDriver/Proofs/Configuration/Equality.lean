import CompilerDriver.Proofs.CommandLine.Canonical
import CompilerDriver.Proofs.Path.NormalForm

/-!
When configurations count as equal.  Their paths are compared by normal forms and all else as it
was given, so a path may be spelled out by further slashes and `.` pieces
(`load_equivalent_iff_normalForm`).
-/

namespace CompilerDriver

namespace Configuration

variable {config other : Configuration}

theorem equivalent_equivalence : Equivalence Equivalent := by
  have hpath := Path.equivalent_equivalence
  constructor
  · intro config
    exact ⟨rfl, hpath.refl _, rfl, rfl, hpath.refl _, rfl⟩
  · rintro config other ⟨hshakeTree, hstdlib, harch, hemitIr, hfiles, hphases⟩
    exact ⟨hshakeTree.symm, hpath.symm hstdlib, harch.symm, hemitIr.symm, hpath.symm hfiles,
      hphases.symm⟩
  · rintro config other last ⟨hshakeTree, hstdlib, harch, hemitIr, hfiles, hphases⟩ hlast
    exact ⟨hshakeTree.trans hlast.shakeTree, hpath.trans hstdlib hlast.stdlibPath,
      harch.trans hlast.arch, hemitIr.trans hlast.emitIr, hpath.trans hfiles hlast.sourceFiles,
      hphases.trans hlast.phases⟩

/-- Configurations are equivalent when they differ at most within the normal forms of their
paths. -/
theorem equivalent_iff_normalForm :
    config.Equivalent other ↔
      config.shakeTree = other.shakeTree ∧ config.arch = other.arch ∧
        config.emitIr = other.emitIr ∧ config.phases = other.phases ∧
        (∃ form, config.stdlibPath.NormalForm form ∧ other.stdlibPath.NormalForm form) ∧
        ∃ form, config.sourceFiles.NormalForm form ∧ other.sourceFiles.NormalForm form := by
  rw [equivalent_iff, Path.equivalent_iff_normalForm, Path.equivalent_iff_normalForm]
  constructor
  · rintro ⟨hshakeTree, hstdlib, harch, hemitIr, hfiles, hphases⟩
    exact ⟨hshakeTree, harch, hemitIr, hphases, hstdlib, hfiles⟩
  · rintro ⟨hshakeTree, harch, hemitIr, hphases, hstdlib, hfiles⟩
    exact ⟨hshakeTree, hstdlib, harch, hemitIr, hfiles, hphases⟩

theorem equivalent_with_stdlibPath {path : Path} (hpath : config.stdlibPath.Equivalent path) :
    config.Equivalent { config with stdlibPath := path } :=
  ⟨rfl, hpath, rfl, rfl, Path.equivalent_equivalence.refl _, rfl⟩

theorem equivalent_with_sourceFiles {path : Path} (hpath : config.sourceFiles.Equivalent path) :
    config.Equivalent { config with sourceFiles := path } :=
  ⟨rfl, Path.equivalent_equivalence.refl _, rfl, rfl, hpath, rfl⟩

/-- The canonical line of an equivalent configuration is loaded as an equal one. -/
theorem loadEquivalent_occurrences {line : List Bytes} (hload : load line = .ok config)
    (hsame : config.Equivalent other) (program : Bytes) :
    LoadEquivalent (load line)
      (load (program :: other.occurrences.map Occurrence.argument)) := by
  rw [hload, load_occurrences]
  exact hsame

end Configuration

/-- Two accepted lines give equal configurations exactly when all but the paths is the same and the
paths have the same normal forms.  Every path has one normal form; equality is an equivalence that
holds between normal paths only if they are the same; and a line that spells a path out by another
slash or `.` piece gives an equal configuration. -/
theorem load_equivalent_iff_normalForm {left right : List Bytes} {config other : Configuration}
    (hleft : load left = .ok config) (hright : load right = .ok other) :
    (LoadEquivalent (load left) (load right) ↔
      config.shakeTree = other.shakeTree ∧ config.arch = other.arch ∧
        config.emitIr = other.emitIr ∧ config.phases = other.phases ∧
        (∃ form, config.stdlibPath.NormalForm form ∧ other.stdlibPath.NormalForm form) ∧
        ∃ form, config.sourceFiles.NormalForm form ∧ other.sourceFiles.NormalForm form) ∧
      (∀ path : Path, ∃! form : Path, path.NormalForm form) ∧
      Equivalence Configuration.Equivalent ∧
      (∀ path form : Path, path.Normal → form.Normal → (path.Equivalent form ↔ path = form)) ∧
      ∀ program longer,
        (config.stdlibPath.Respells longer → LoadEquivalent (load left) (load (program ::
          { config with stdlibPath := longer }.occurrences.map Occurrence.argument))) ∧
        (config.sourceFiles.Respells longer → LoadEquivalent (load left) (load (program ::
          { config with sourceFiles := longer }.occurrences.map Occurrence.argument))) := by
  refine ⟨?_, Path.existsUnique_normalForm, Configuration.equivalent_equivalence, ?_, ?_⟩
  · rw [hleft, hright]
    exact Configuration.equivalent_iff_normalForm
  · intro path form hpath hform
    refine ⟨hpath.eq_of_equivalent hform, ?_⟩
    rintro rfl
    exact Path.equivalent_equivalence.refl _
  · intro program longer
    constructor
    · intro hlonger
      exact Configuration.loadEquivalent_occurrences hleft
        (Configuration.equivalent_with_stdlibPath (Path.equivalent_of_respells hlonger)) program
    · intro hlonger
      exact Configuration.loadEquivalent_occurrences hleft
        (Configuration.equivalent_with_sourceFiles (Path.equivalent_of_respells hlonger)) program

/-- A leading `.` counts in a relative path alone, and a `..` is never resolved. -/
theorem load_equivalent_iff_normalForm_spellings :
    let left := ["cw", "--stdlib=./Lib//a/../.", "-F", "/./x/"].map Utf8.encode
    let right := ["cw", "--files=//x", "--stdlib", "./Lib/a/.."].map Utf8.encode
    let bare := ["cw", "--files=//x", "--stdlib", "Lib/a/.."].map Utf8.encode
    (∃ config other, load left = .ok config ∧ load right = .ok other ∧
        LoadEquivalent (load left) (load right) ∧
        ∃ form, config.stdlibPath.NormalForm form ∧ other.stdlibPath.NormalForm form) ∧
      ∃ config other, load left = .ok config ∧ load bare = .ok other ∧
        ¬∃ form, config.stdlibPath.NormalForm form ∧ other.stdlibPath.NormalForm form := by
  intro left right bare
  have hleft : load left = .ok ⟨false, ⟨"./Lib//a/../."⟩, "x64", false, ⟨"/./x/"⟩, {}⟩ := rfl
  have hright : load right = .ok ⟨false, ⟨"./Lib/a/.."⟩, "x64", false, ⟨"//x"⟩, {}⟩ := rfl
  have hbare : load bare = .ok ⟨false, ⟨"Lib/a/.."⟩, "x64", false, ⟨"//x"⟩, {}⟩ := rfl
  have hsame : LoadEquivalent (load left) (load right) := by
    rw [hleft, hright]
    decide +kernel
  have hdiffer : ¬LoadEquivalent (load left) (load bare) := by
    rw [hleft, hbare]
    decide +kernel
  obtain ⟨_, _, _, _, hstdlib, hfiles⟩ := (load_equivalent_iff_normalForm hleft hright).1.mp hsame
  refine ⟨⟨_, _, hleft, hright, hsame, hstdlib⟩, _, _, hleft, hbare, ?_⟩
  intro hother
  exact hdiffer ((load_equivalent_iff_normalForm hleft hbare).1.mpr
    ⟨rfl, rfl, rfl, rfl, hother, hfiles⟩)

end CompilerDriver
