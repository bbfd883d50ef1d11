import CompilerDriver.Proofs.Configuration.Layout
import CompilerDriver.Proofs.Report.Lines

/-!
What a dump tells.  A configuration can be told from its dump in either layout, and a reader of
quoted texts finds in it just the texts of the configuration, whatever they look like
(`dump_recovers`).
-/

namespace CompilerDriver

open Layout Quoted

variable {layout : Layout}

theorem delimited_switchText (on other : Bool) :
    Delimited (fun on => (Configuration.switchText on).toList) on other :=
  delimited_of_isPrefixOf (by decide) on other

/-- No request is written like the beginning of another one. -/
theorem delimited_request (layout : Layout) (request other : Option Phase) :
    Delimited (fun request => (dumpRequest layout request).toList) request other := by
  let requests : List (Option Phase) := none :: Phase.all.map some
  have hmem : ∀ request, request ∈ requests := by
    rintro (_ | phase)
    · exact List.mem_cons_self
    · exact List.mem_cons_of_mem _ (List.mem_map_of_mem (Phase.mem_all phase))
  have hdistinct : ∀ layout ∈ [Layout.oneLine, Layout.indented], ∀ request ∈ requests,
      ∀ other ∈ requests,
        (dumpRequest layout request).toList.isPrefixOf (dumpRequest layout other).toList = true →
          request = other := by
    decide +kernel
  have hlayout : layout ∈ [Layout.oneLine, Layout.indented] := by cases layout <;> decide
  exact delimited_of_isPrefixOf
    (fun request other => hdistinct layout hlayout request (hmem request) other (hmem other))
    request other

namespace PhaseControl

/-- The fields of a control in a dump. -/
def dumpFields (control : PhaseControl) (layout : Layout) : List (String × String) :=
  PhaseSlot.all.map fun slot => (slot.name, dumpRequest layout (control.get slot))

theorem delimited_dump (control other : PhaseControl) :
    Delimited (fun control : PhaseControl => (control.dump layout).toList) control other := by
  intro first second hsame
  have hfields : control.dumpFields layout = other.dumpFields layout := by
    apply eq_of_record_append_eq _ hsame
    rw [List.forall₂_map_left_iff, List.forall₂_map_right_iff, List.forall₂_same]
    intro slot _
    exact ⟨rfl, (delimited_request layout _ _).toList⟩
  apply ext_get
  intro slot
  have hslot := List.map_inj_left.1 hfields slot (PhaseSlot.mem_all slot)
  apply (delimited_request layout _ _).eq
  exact congrArg String.toList (Prod.mk.inj hslot).2

end PhaseControl

/-- The words of a dump, apart from the texts of its configuration. -/
def dumpWords : List String :=
  ["Configuration", "shake_tree", "stdlib_path", "arch", "emit_ir", "source_files", "phases",
   "true", "false", "PhaseControl", "None", "Some"]
    ++ PhaseSlot.all.map PhaseSlot.name ++ Phase.all.map Phase.label

section kinds

variable {kind : Char → Prop} (hsigns : Every kind layout.signs)
  (hwords : ∀ word ∈ dumpWords, Every kind word)
include hsigns hwords

theorem every_dumpRequest (request : Option Phase) : Every kind (dumpRequest layout request) := by
  cases request with
  | none => exact hwords "None" (by decide)
  | some phase =>
      have hphase : Every kind phase.label := hwords phase.label (by cases phase <;> decide)
      exact every_wrap hsigns (hwords "Some" (by decide)) hphase

theorem PhaseControl.every_dump (control : PhaseControl) : Every kind (control.dump layout) := by
  have hne : control.dumpFields layout ≠ [] := List.cons_ne_nil _ _
  apply every_record hsigns (hwords "PhaseControl" (by decide)) hne
  intro item hitem
  obtain ⟨slot, _, rfl⟩ := List.mem_map.1 hitem
  exact ⟨hwords slot.name (by cases slot <;> decide), every_dumpRequest hsigns hwords _⟩

/-- A dump holds nothing but its words, the signs of its layout and the quoted texts. -/
theorem Configuration.every_dump {config : Configuration}
    (hquotes : ∀ text ∈ config.freeTexts, Every kind (quote text)) :
    Every kind (config.dump layout) := by
  have hswitch : ∀ on, Every kind (switchText on) := by
    rintro (_ | _)
    · exact hwords "false" (by decide)
    · exact hwords "true" (by decide)
  obtain ⟨hstdlib, harch, hfiles⟩ :
      Every kind (quote config.stdlibPath.text) ∧ Every kind (quote config.arch) ∧
        Every kind (quote config.sourceFiles.text) := by
    simpa [freeTexts] using hquotes
  apply every_record hsigns (hwords "Configuration" (by decide)) (List.cons_ne_nil _ _)
  simp only [List.forall_mem_cons]
  exact ⟨⟨hwords _ (by decide), hswitch _⟩, ⟨hwords _ (by decide), hstdlib⟩,
    ⟨hwords _ (by decide), harch⟩, ⟨hwords _ (by decide), hswitch _⟩,
    ⟨hwords _ (by decide), hfiles⟩,
    ⟨hwords _ (by decide), PhaseControl.every_dump hsigns hwords _⟩, List.forall_mem_nil _⟩

end kinds

namespace Configuration

/-- The fields of a configuration in a dump. -/
def dumpFields (config : Configuration) (layout : Layout) : List (String × String) :=
  [("shake_tree", switchText config.shakeTree),
   ("stdlib_path", quote config.stdlibPath.text),
   ("arch", quote config.arch),
   ("emit_ir", switchText config.emitIr),
   ("source_files", quote config.sourceFiles.text),
   ("phases", config.phases.dump layout)]

theorem quote_notMem_dump_phases (control : PhaseControl) : '"' ∉ (control.dump layout).toList := by
  have hsigns : Every (· ≠ '"') layout.signs := by cases layout <;> decide
  have hwords : ∀ word ∈ dumpWords, Every (· ≠ '"') word := by decide
  intro hmem
  exact control.every_dump hsigns hwords _ hmem rfl

/-- What is quoted in a dump are the texts of the configuration, in the order of its fields. -/
theorem quoting_dump (config : Configuration) (layout : Layout) :
    Quoting (config.dump layout).toList config.freeTexts := by
  have hswitch : ∀ on, QuotingValue (switchText on) [] := by
    intro on
    exact quotingValue_of_notMem (by cases on <;> decide)
  have hphases : QuotingValue (config.phases.dump layout) [] :=
    quotingValue_of_notMem (quote_notMem_dump_phases _)
  have hnames : ∀ item ∈ config.dumpFields layout, '"' ∉ item.1.toList := by
    have hwords : ∀ word ∈ (config.dumpFields layout).map Prod.fst, '"' ∉ word.toList := by
      change ∀ word ∈ ["shake_tree", "stdlib_path", "arch", "emit_ir", "source_files", "phases"], _
      decide
    exact fun item hitem => hwords item.1 (List.mem_map_of_mem hitem)
  have hvalues : List.Forall₂ (fun item => QuotingValue item.2) (config.dumpFields layout)
      [[], [config.stdlibPath.text], [config.arch], [], [config.sourceFiles.text], []] :=
    .cons (hswitch _) <| .cons (quotingValue_quote _) <| .cons (quotingValue_quote _) <|
      .cons (hswitch _) <| .cons (quotingValue_quote _) <| .cons hphases .nil
  exact quoting_record (by decide) (List.cons_ne_nil _ _) hnames hvalues

theorem eq_of_dump_eq {config other : Configuration}
    (hsame : config.dump layout = other.dump layout) : config = other := by
  have hfields : config.dumpFields layout = other.dumpFields layout := by
    apply eq_of_record_append_eq _ (congrArg (·.toList ++ []) hsame)
    exact .cons ⟨rfl, (delimited_switchText _ _).toList⟩ <|
      .cons ⟨rfl, (delimited_quote _ _).toList⟩ <| .cons ⟨rfl, (delimited_quote _ _).toList⟩ <|
      .cons ⟨rfl, (delimited_switchText _ _).toList⟩ <|
      .cons ⟨rfl, (delimited_quote _ _).toList⟩ <|
      .cons ⟨rfl, (PhaseControl.delimited_dump _ _).toList⟩ .nil
  simp only [dumpFields, List.cons.injEq, Prod.mk.injEq, true_and, and_true] at hfields
  obtain ⟨hshakeTree, hstdlib, harch, hemitIr, hfiles, hphases⟩ := hfields
  replace hshakeTree := (delimited_switchText _ _).eq (congrArg String.toList hshakeTree)
  replace hstdlib := (delimited_quote _ _).eq (congrArg String.toList hstdlib)
  replace harch := (delimited_quote _ _).eq (congrArg String.toList harch)
  replace hemitIr := (delimited_switchText _ _).eq (congrArg String.toList hemitIr)
  replace hfiles := (delimited_quote _ _).eq (congrArg String.toList hfiles)
  replace hphases := (PhaseControl.delimited_dump _ _).eq (congrArg String.toList hphases)
  obtain ⟨_, ⟨_⟩, _, _, ⟨_⟩, _⟩ := config
  obtain ⟨_, ⟨_⟩, _, _, ⟨_⟩, _⟩ := other
  simp_all

/-- A dump loses nothing, whatever its layout: another configuration has another dump, and undoing
the escapes of what is quoted in it gives the texts of the configuration back. -/
theorem dump_recovers (config other : Configuration) (layout : Layout) :
    (config.dump layout = other.dump layout ↔ config = other) ∧
      texts? (config.dump layout) =
        some [config.stdlibPath.text, config.arch, config.sourceFiles.text] :=
  ⟨⟨eq_of_dump_eq, fun hsame => hsame ▸ rfl⟩,
    texts?_of_quoting (config.quoting_dump layout)⟩

end Configuration

end CompilerDriver
