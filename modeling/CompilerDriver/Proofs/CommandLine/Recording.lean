import CompilerDriver.Proofs.CommandLine.Settling

/-!
Recording complete occurrences one after the other.  It succeeds exactly when no flag comes twice
and every value is admitted (`Recordable`), and then the state holds neither more nor less than
what was recorded (`Recorded`).  So the draft does not depend on the order of the occurrences
(`Draft.eq_of_holds_iff`), and the configuration made from it reflects each of them.
-/

namespace CompilerDriver

/-- The values that a setting admits: any text, or the name of a phase. -/
def Setting.Admits : Setting → Bytes → Prop
  | .phase _, value => ∃ phase : Phase, value = Utf8.encode phase.name
  | _, value => ∃ text : String, value = Utf8.encode text

/-- The bytes of a setting's value when it is not given. -/
def Setting.default? : Setting → Option Bytes
  | .stdlib => some (Utf8.encode Configuration.defaultStdlib)
  | .arch => some (Utf8.encode Configuration.defaultArch)
  | .files | .phase _ => none

/-- An occurrence is valid when its setting admits its value. -/
def Occurrence.Valid : Occurrence → Prop
  | .switch _ => True
  | .setting which value => which.Admits value

namespace Configuration

def isOn (config : Configuration) : Switch → Bool
  | .shakeTree => config.shakeTree
  | .emitIr => config.emitIr

/-- The bytes of the value that a configuration has for a setting. -/
def value? (config : Configuration) : Setting → Option Bytes
  | .stdlib => some (Utf8.encode config.stdlibPath.text)
  | .arch => some (Utf8.encode config.arch)
  | .files => some (Utf8.encode config.sourceFiles.text)
  | .phase slot => (config.phases.get slot).map fun phase => Utf8.encode phase.name

/-- A configuration reflects occurrences when every switch and every setting is what its occurrence
says, or its default when there is none. -/
structure Reflects (config : Configuration) (occurrences : List Occurrence) : Prop where
  switches : ∀ which, config.isOn which = true ↔ .switch which ∈ occurrences
  given : ∀ setting value, .setting setting value ∈ occurrences →
    config.value? setting = some value
  absent : ∀ setting, (∀ value, .setting setting value ∉ occurrences) →
    config.value? setting = setting.default?

end Configuration

namespace Draft

variable {draft next : Draft}

def isOn (draft : Draft) : Switch → Bool
  | .shakeTree => draft.shakeTree
  | .emitIr => draft.emitIr

def value? (draft : Draft) : Setting → Option Bytes
  | .stdlib => draft.stdlib.map Utf8.encode
  | .arch => draft.arch.map Utf8.encode
  | .files => draft.files.map Utf8.encode
  | .phase slot => (draft.phases.get slot).map fun phase => Utf8.encode phase.name

/-- A draft holds an occurrence when it has the occurrence's value. -/
def Holds (draft : Draft) : Occurrence → Prop
  | .switch which => draft.isOn which = true
  | .setting setting value => draft.value? setting = some value

/-- A value can be stored exactly when its setting admits it. -/
theorem exists_store_iff (draft : Draft) (occurrence : Occurrence) :
    (∃ next, draft.store occurrence = .ok next) ↔ occurrence.Valid := by
  cases occurrence with
  | switch which =>
      have hstore : ∃ next, draft.store (.switch which) = .ok next := by
        cases which <;> exact ⟨_, rfl⟩
      exact iff_of_true hstore trivial
  | setting setting value =>
      constructor
      · rintro ⟨next, hstore⟩
        cases setting with
        | stdlib | arch | files =>
            obtain ⟨text, hread, _⟩ := bind_eq_ok_iff.1 hstore
            exact ⟨text, readText_eq_ok_iff.1 hread⟩
        | phase slot =>
            obtain ⟨phase, hread, _⟩ := bind_eq_ok_iff.1 hstore
            exact ⟨phase, readPhase_eq_ok_iff.1 hread⟩
      · intro hvalid
        cases setting with
        | stdlib | arch | files =>
            obtain ⟨text, hvalue⟩ := hvalid
            exact ⟨_, bind_eq_ok_iff.2 ⟨text, readText_eq_ok_iff.2 hvalue, rfl⟩⟩
        | phase slot =>
            obtain ⟨phase, hvalue⟩ := hvalid
            exact ⟨_, bind_eq_ok_iff.2 ⟨phase, readPhase_eq_ok_iff.2 hvalue, rfl⟩⟩

theorem views_of_store_switch {which : Switch} (hstore : draft.store (.switch which) = .ok next) :
    (∀ other, next.isOn other = true ↔ other = which ∨ draft.isOn other = true) ∧
      ∀ setting, next.value? setting = draft.value? setting := by
  cases which <;> cases hstore
  · refine ⟨fun other => ?_, fun setting => by cases setting <;> rfl⟩
    cases other <;> simp [isOn]
  · refine ⟨fun other => ?_, fun setting => by cases setting <;> rfl⟩
    cases other <;> simp [isOn]

theorem views_of_store_setting {setting : Setting} {value : Bytes}
    (hstore : draft.store (.setting setting value) = .ok next) :
    (∀ which, next.isOn which = draft.isOn which) ∧
      ∀ other, next.value? other = if other = setting then some value else draft.value? other := by
  cases setting with
  | stdlib | arch | files =>
      obtain ⟨text, hread, hnext⟩ := bind_eq_ok_iff.1 hstore
      cases hnext
      refine ⟨fun which => by cases which <;> rfl, fun other => ?_⟩
      cases other <;> simp [value?, readText_eq_ok_iff.1 hread]
  | phase slot =>
      obtain ⟨phase, hread, hnext⟩ := bind_eq_ok_iff.1 hstore
      cases hnext
      refine ⟨fun which => by cases which <;> rfl, fun other => ?_⟩
      cases other with
      | stdlib | arch | files => simp [value?]
      | phase other =>
          by_cases hslot : other = slot
          · simp [value?, hslot, readPhase_eq_ok_iff.1 hread]
          · simp [value?, hslot, PhaseControl.get_set_of_ne]

/-- Storing replaces what was held for the flag, and nothing else. -/
theorem holds_of_store {occurrence : Occurrence} (hstore : draft.store occurrence = .ok next)
    (other : Occurrence) :
    next.Holds other ↔
      if other.flag = occurrence.flag then other = occurrence else draft.Holds other := by
  cases occurrence with
  | switch which =>
      obtain ⟨hswitch, hvalue⟩ := views_of_store_switch hstore
      cases other with
      | switch other =>
          by_cases hsame : other = which
          · simp [Holds, hswitch, Occurrence.flag, hsame]
          · simp [Holds, hswitch, Occurrence.flag, hsame]
      | setting setting value => simp [Holds, hvalue, Occurrence.flag]
  | setting setting value =>
      obtain ⟨hswitch, hvalue⟩ := views_of_store_setting hstore
      cases other with
      | switch other => simp [Holds, hswitch, Occurrence.flag]
      | setting other given =>
          by_cases hsame : other = setting
          · simp [Holds, hvalue, Occurrence.flag, hsame, eq_comm]
          · simp [Holds, hvalue, Occurrence.flag, hsame]

/-- A draft is what it holds. -/
theorem eq_of_holds_iff {left right : Draft}
    (hholds : ∀ occurrence, left.Holds occurrence ↔ right.Holds occurrence) : left = right := by
  have hswitch : ∀ which, left.isOn which = right.isOn which := fun which =>
    Bool.eq_iff_iff.2 (hholds (.switch which))
  have hvalue : ∀ setting, left.value? setting = right.value? setting := fun setting =>
    Option.ext fun value => hholds (.setting setting value)
  have hencode : ∀ x y, Utf8.encode x = Utf8.encode y → x = y := fun _ _ => Utf8.encode_injective
  have hphases : left.phases = right.phases := by
    apply PhaseControl.ext_get
    intro slot
    apply Option.map_injective _ (hvalue (.phase slot))
    intro first second hname
    exact Phase.name_injective (Utf8.encode_injective hname)
  have hshakeTree : left.shakeTree = right.shakeTree := hswitch .shakeTree
  have hemitIr : left.emitIr = right.emitIr := hswitch .emitIr
  have hstdlib : left.stdlib = right.stdlib := Option.map_injective hencode (hvalue .stdlib)
  have harch : left.arch = right.arch := Option.map_injective hencode (hvalue .arch)
  have hfiles : left.files = right.files := Option.map_injective hencode (hvalue .files)
  cases left
  cases right
  simp_all

theorem exists_configuration?_iff (draft : Draft) :
    (∃ config, draft.configuration? = some config) ↔ ∃ value, draft.Holds (.setting .files value) := by
  cases hfiles : draft.files with
  | none => simp [configuration?, Holds, value?, hfiles]
  | some files => simp [configuration?, Holds, value?, hfiles]

/-- The configuration of a draft has the values that were given, and defaults for the others. -/
theorem views_of_configuration? {config : Configuration}
    (hconfig : draft.configuration? = some config) :
    (∀ which, config.isOn which = draft.isOn which) ∧
      ∀ setting, config.value? setting = (draft.value? setting).or setting.default? := by
  obtain ⟨files, hfiles, rfl⟩ := Option.map_eq_some_iff.1 hconfig
  constructor
  · intro which
    cases which <;> rfl
  · intro setting
    cases setting with
    | stdlib =>
        cases hstdlib : draft.stdlib <;>
          simp [Configuration.value?, value?, Setting.default?, hstdlib]
    | arch =>
        cases harch : draft.arch <;> simp [Configuration.value?, value?, Setting.default?, harch]
    | files => simp [Configuration.value?, value?, hfiles]
    | phase slot => simp [Configuration.value?, value?, Setting.default?]

/-- The configuration of a draft that holds just the given occurrences reflects them. -/
theorem reflects_of_configuration? {config : Configuration} {occurrences : List Occurrence}
    (hconfig : draft.configuration? = some config)
    (hholds : ∀ occurrence, draft.Holds occurrence ↔ occurrence ∈ occurrences) :
    config.Reflects occurrences := by
  obtain ⟨hswitch, hvalue⟩ := views_of_configuration? hconfig
  constructor
  · intro which
    rw [hswitch]
    exact hholds (.switch which)
  · intro setting value hgiven
    have hheld : draft.value? setting = some value := (hholds (.setting setting value)).2 hgiven
    rw [hvalue, hheld, Option.some_or]
  · intro setting habsent
    have hnone : draft.value? setting = none := by
      apply Option.eq_none_iff_forall_ne_some.2
      intro value hheld
      exact habsent value ((hholds (.setting setting value)).1 hheld)
    rw [hvalue, hnone, Option.none_or]

end Draft

/-- No flag occurs twice, and every value is admitted. -/
structure Recordable (occurrences : List Occurrence) : Prop where
  distinct : (occurrences.map Occurrence.flag).Nodup
  valid : ∀ occurrence ∈ occurrences, occurrence.Valid

theorem Recordable.perm {left right : List Occurrence} (hleft : Recordable left)
    (hperm : left.Perm right) : Recordable right where
  distinct := (hperm.map Occurrence.flag).nodup_iff.1 hleft.distinct
  valid := fun occurrence hmem => hleft.valid occurrence (hperm.mem_iff.2 hmem)

theorem Recordable.of_append {left right : List Occurrence}
    (hboth : Recordable (left ++ right)) : Recordable left where
  distinct := by
    have hdistinct := hboth.distinct
    rw [List.map_append] at hdistinct
    exact (List.nodup_append.1 hdistinct).1
  valid := fun occurrence hmem => hboth.valid occurrence (List.mem_append_left right hmem)

theorem recordable_append_singleton_iff {occurrences : List Occurrence} {occurrence : Occurrence} :
    Recordable (occurrences ++ [occurrence]) ↔
      Recordable occurrences ∧ occurrence.flag ∉ occurrences.map Occurrence.flag ∧
        occurrence.Valid := by
  constructor
  · intro hwhole
    have hdistinct := hwhole.distinct
    rw [List.map_append, List.nodup_append] at hdistinct
    refine ⟨hwhole.of_append, ?_, ?_⟩
    · intro hflag
      exact hdistinct.2.2 _ hflag _ (List.mem_singleton_self _) rfl
    · exact hwhole.valid occurrence (List.mem_append_right _ (List.mem_singleton_self _))
  · rintro ⟨hrecordable, hnew, hvalid⟩
    constructor
    · rw [List.map_append, List.nodup_append]
      refine ⟨hrecordable.distinct, List.pairwise_singleton _ _, ?_⟩
      rintro flag hflag other hother rfl
      exact hnew (List.mem_singleton.1 hother ▸ hflag)
    · intro other hother
      rcases List.mem_append.1 hother with hold | hlast
      · exact hrecordable.valid other hold
      · rwa [List.mem_singleton.1 hlast]

/-- What a state has recorded: these occurrences, in this order, and nothing else. -/
structure Recorded (occurrences : List Occurrence) (state : ParseState) : Prop where
  recordable : Recordable occurrences
  given : state.given = occurrences.map Occurrence.flag
  anyGiven : state.anyGiven = true ↔ occurrences ≠ []
  holds : ∀ occurrence, state.draft.Holds occurrence ↔ occurrence ∈ occurrences

theorem recorded_nil : Recorded [] {} where
  recordable := ⟨List.nodup_nil, nofun⟩
  given := rfl
  anyGiven := by simp
  holds := by
    rintro ((_ | _) | ⟨_ | _ | _ | slot, value⟩) <;>
      simp [Draft.Holds, Draft.isOn, Draft.value?]

namespace Recorded

variable {occurrences : List Occurrence} {state next : ParseState}

/-- What is pending, and whether the line is closed, is not part of what is recorded. -/
theorem update (hstate : Recorded occurrences state) (pending : Option Pending)
    (terminated : Bool) :
    Recorded occurrences { state with pending := pending, terminated := terminated } :=
  ⟨hstate.recordable, hstate.given, hstate.anyGiven, hstate.holds⟩

/-- One more occurrence is recorded exactly when the whole list stays recordable. -/
theorem exists_record_iff (hstate : Recorded occurrences state) (occurrence : Occurrence) :
    (∃ next, ParseState.orFault (state.record occurrence) = .ok next) ↔
      Recordable (occurrences ++ [occurrence]) := by
  rw [recordable_append_singleton_iff, ← hstate.given, ← state.draft.exists_store_iff]
  simp only [ParseState.record_eq_ok_iff]
  constructor
  · rintro ⟨next, hnew, draft, hstore, _⟩
    exact ⟨hstate.recordable, hnew, draft, hstore⟩
  · rintro ⟨_, hnew, draft, hstore⟩
    exact ⟨_, hnew, draft, hstore, rfl⟩

theorem record (hstate : Recorded occurrences state) {occurrence : Occurrence}
    (hrecord : ParseState.orFault (state.record occurrence) = .ok next) :
    Recorded (occurrences ++ [occurrence]) next := by
  have hrecordable := (hstate.exists_record_iff occurrence).1 ⟨next, hrecord⟩
  obtain ⟨hnew, draft, hstore, rfl⟩ := ParseState.record_eq_ok_iff.1 hrecord
  rw [hstate.given] at hnew
  refine ⟨hrecordable, by simp [hstate.given], by simp, ?_⟩
  intro other
  rw [Draft.holds_of_store hstore, List.mem_append, List.mem_singleton]
  by_cases hflag : other.flag = occurrence.flag
  · have hother : other ∉ occurrences := fun hmem =>
      hnew (hflag ▸ List.mem_map_of_mem hmem)
    simp [hflag, hother]
  · have hne : other ≠ occurrence := fun hsame => hflag (congrArg Occurrence.flag hsame)
    simp [hflag, hne, hstate.holds]

end Recorded

namespace ParseState

/-- Records occurrences one after the other, up to the first fault. -/
def recordAll (state : ParseState) (occurrences : List Occurrence) : Except Fault ParseState :=
  occurrences.foldlM (fun state occurrence => orFault (state.record occurrence)) state

theorem kind_of_recordAll {state : ParseState} {occurrences : List Occurrence} {fault : Fault}
    (hrecord : state.recordAll occurrences = .error fault) : fault.kind = .malformed := by
  induction occurrences generalizing state with
  | nil => cases hrecord
  | cons occurrence rest ih =>
      rcases bind_eq_error_iff.1 hrecord with hfirst | ⟨middle, _, hrest⟩
      · exact kind_of_record (orFault_eq_error_iff.1 hfirst)
      · exact ih hrest

end ParseState

namespace Recorded

variable {done todo : List Occurrence} {state next : ParseState}

theorem recordAll (hstate : Recorded done state) (hrecord : state.recordAll todo = .ok next) :
    Recorded (done ++ todo) next := by
  induction todo generalizing done state with
  | nil =>
      cases hrecord
      rwa [List.append_nil]
  | cons occurrence rest ih =>
      obtain ⟨middle, hfirst, hrest⟩ := bind_eq_ok_iff.1 hrecord
      have hnext := ih (hstate.record hfirst) hrest
      rwa [List.append_assoc] at hnext

/-- A run of recordings succeeds exactly when the whole list is recordable. -/
theorem exists_recordAll_iff (hstate : Recorded done state) :
    (∃ next, state.recordAll todo = .ok next) ↔ Recordable (done ++ todo) := by
  constructor
  · rintro ⟨next, hrecord⟩
    exact (hstate.recordAll hrecord).recordable
  · intro hwhole
    -- The occurrence in front moves from `todo` to `done`, so the whole list stays the same.
    induction todo generalizing done state with
    | nil => exact ⟨state, rfl⟩
    | cons occurrence rest ih =>
        rw [List.append_cons] at hwhole
        obtain ⟨middle, hfirst⟩ := (hstate.exists_record_iff occurrence).2 hwhole.of_append
        obtain ⟨next, hrest⟩ := ih (hstate.record hfirst) hwhole
        exact ⟨next, bind_eq_ok_iff.2 ⟨middle, hfirst, hrest⟩⟩

end Recorded

namespace ParseState

variable {occurrences : List Occurrence} {state : ParseState}

theorem exists_recordAll_iff :
    (∃ next, ({} : ParseState).recordAll occurrences = .ok next) ↔ Recordable occurrences :=
  recorded_nil.exists_recordAll_iff

theorem recorded_of_recordAll (hrecord : ({} : ParseState).recordAll occurrences = .ok state) :
    Recorded occurrences state :=
  recorded_nil.recordAll hrecord

end ParseState

end CompilerDriver
