import CompilerDriver.Text.Case

/-!
The phases of the compiler front-end, in the order in which the pipeline reaches them.
-/

namespace CompilerDriver

/-- A checkpoint of the pipeline. -/
inductive Phase where
  | afterParsing
  | afterSymbolizing
  | afterTyping
  | afterPartialEval
  | afterInitialLowering
  | afterOptimization
  | afterEliminateSpanAndUnion
  | afterLargeArgConversion
  | afterLegalize
  | afterNameCleanup
  deriving DecidableEq, Repr

namespace Phase

/-- Every phase, in pipeline order. -/
def all : List Phase :=
  [.afterParsing, .afterSymbolizing, .afterTyping, .afterPartialEval, .afterInitialLowering,
   .afterOptimization, .afterEliminateSpanAndUnion, .afterLargeArgConversion, .afterLegalize,
   .afterNameCleanup]

/-- The name by which a command line asks for a phase. -/
def name : Phase → String
  | .afterParsing => "after_parsing"
  | .afterSymbolizing => "after_symbolizing"
  | .afterTyping => "after_typing"
  | .afterPartialEval => "after_partial_eval"
  | .afterInitialLowering => "after_initial_lowering"
  | .afterOptimization => "after_optimization"
  | .afterEliminateSpanAndUnion => "after_eliminate_span_and_union"
  | .afterLargeArgConversion => "after_large_arg_conversion"
  | .afterLegalize => "after_legalize"
  | .afterNameCleanup => "after_name_cleanup"

/-- The name of a phase in a dump of a configuration. -/
def label : Phase → String
  | .afterParsing => "AfterParsing"
  | .afterSymbolizing => "AfterSymbolizing"
  | .afterTyping => "AfterTyping"
  | .afterPartialEval => "AfterPartialEval"
  | .afterInitialLowering => "AfterInitialLowering"
  | .afterOptimization => "AfterOptimization"
  | .afterEliminateSpanAndUnion => "AfterEliminateSpanAndUnion"
  | .afterLargeArgConversion => "AfterLargeArgConversion"
  | .afterLegalize => "AfterLegalize"
  | .afterNameCleanup => "AfterNameCleanup"

/-- The place of a phase in the pipeline, from zero. -/
def position (phase : Phase) : Nat :=
  all.idxOf phase

instance : LE Phase := ⟨fun left right => left.position ≤ right.position⟩

instance (left right : Phase) : Decidable (left ≤ right) :=
  inferInstanceAs (Decidable (left.position ≤ right.position))

instance : Ord Phase := ⟨fun left right => compare left.position right.position⟩

/-- The names of all phases, for help and diagnostics. -/
def knownNames : String :=
  ", ".intercalate (all.map name)

/-- The phase of exactly this name. -/
def ofName? (text : String) : Option Phase :=
  all.find? (·.name == text)

/-- A text that names no phase. -/
structure Unknown where
  name : String
  deriving DecidableEq, Repr

/-- What is wrong with a text that names no phase. -/
def Unknown.message (fault : Unknown) : String :=
  "invalid variant: " ++ fault.name

/-- The phase of exactly this name, or the complaint that there is none. -/
def parse (text : String) : Except Unknown Phase :=
  match ofName? text with
  | some phase => .ok phase
  | none => .error ⟨text⟩

/-- The phase of this name, whatever the case of its ASCII letters. -/
def ofNameAnyCase? (text : String) : Option Phase :=
  all.find? (fun phase => foldCase phase.name == foldCase text)

/-- The phase of this name, whatever the case of its ASCII letters, or the complaint that there is
none. -/
def parseAnyCase (text : String) : Except Unknown Phase :=
  match ofNameAnyCase? text with
  | some phase => .ok phase
  | none => .error ⟨text⟩

/-- How each phase compares with the next one. -/
def comparisons (phases : List Phase) : List Ordering :=
  List.zipWith compare phases phases.tail

/-- The earliest of the phases. -/
def earliest? : List Phase → Option Phase
  | [] => none
  | phase :: rest =>
    match earliest? rest with
    | some other => if phase ≤ other then some phase else some other
    | none => some phase

/-- The latest of the phases. -/
def latest? : List Phase → Option Phase
  | [] => none
  | phase :: rest =>
    match latest? rest with
    | some other => if other ≤ phase then some phase else some other
    | none => some phase

/-- The phases in pipeline order. -/
def sort (phases : List Phase) : List Phase :=
  phases.mergeSort fun left right => left ≤ right

theorem mem_all (phase : Phase) : phase ∈ all := by
  cases phase <;> decide

/-- The pipeline reaches one phase before another. -/
def Before (earlier later : Phase) : Prop :=
  List.Sublist [earlier, later]
    [.afterParsing, .afterSymbolizing, .afterTyping, .afterPartialEval, .afterInitialLowering,
     .afterOptimization, .afterEliminateSpanAndUnion, .afterLargeArgConversion, .afterLegalize,
     .afterNameCleanup]

instance (earlier later : Phase) : Decidable (earlier.Before later) :=
  inferInstanceAs (Decidable (List.Sublist _ _))

/-- The places of the phases are in the order in which the pipeline reaches them. -/
theorem before_iff {earlier later : Phase} :
    earlier.Before later ↔ earlier.position < later.position := by
  cases earlier <;> cases later <;> decide

theorem not_before_iff {phase other : Phase} : ¬other.Before phase ↔ phase ≤ other := by
  rw [before_iff, Nat.not_lt]
  exact Iff.rfl

theorem name_injective {left right : Phase} (h : left.name = right.name) : left = right := by
  revert h
  cases left <;> cases right <;> decide

@[simp] theorem ofName?_name (phase : Phase) : ofName? phase.name = some phase := by
  cases phase <;> decide

/-- Looking up a name finds exactly the phase that bears it. -/
theorem ofName?_eq_some_iff {text : String} {phase : Phase} :
    ofName? text = some phase ↔ text = phase.name := by
  constructor
  · intro h
    have found := List.find?_some h
    exact (beq_iff_eq.1 found).symm
  · rintro rfl
    exact ofName?_name phase

/-- The earliest phase is one of the phases, and none comes before it. -/
theorem earliest?_eq_some {phases : List Phase} {phase : Phase}
    (h : earliest? phases = some phase) :
    phase ∈ phases ∧ ∀ other ∈ phases, phase ≤ other := by
  induction phases generalizing phase with
  | nil => cases h
  | cons first rest ih =>
    rw [earliest?] at h
    split at h
    · rename_i other found
      obtain ⟨inRest, least⟩ := ih found
      split at h
      · rename_i ordered
        cases h
        refine ⟨List.mem_cons_self, List.forall_mem_cons.2 ⟨Nat.le_refl _, fun q hq => ?_⟩⟩
        exact Nat.le_trans ordered (least q hq)
      · rename_i unordered
        cases h
        exact ⟨List.mem_cons_of_mem _ inRest,
          List.forall_mem_cons.2 ⟨Nat.le_of_not_le unordered, least⟩⟩
    · rename_i found
      cases h
      cases rest with
      | nil =>
        exact ⟨List.mem_cons_self, fun q hq => List.mem_singleton.1 hq ▸ Nat.le_refl _⟩
      | cons next more =>
        rw [earliest?] at found
        split at found
        · split at found <;> cases found
        · cases found

@[simp] theorem earliest?_eq_none_iff {phases : List Phase} :
    earliest? phases = none ↔ phases = [] := by
  constructor
  · intro h
    cases phases with
    | nil => rfl
    | cons first rest =>
      rw [earliest?] at h
      split at h
      · split at h <;> cases h
      · cases h
  · rintro rfl
    rfl

end Phase

end CompilerDriver
