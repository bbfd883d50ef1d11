import CompilerDriver.Proofs.CommandLine.NamedFlags

/-!
What holds in every state that the reader reaches without a fault.  The flags that count as given
are those that the arguments name, each once, but for the setting that is still pending; each given
setting has a stored value that it admits; and what is pending stands at the end of the arguments,
with at most one value behind it (`invariant_of_run`).
-/

namespace CompilerDriver

namespace Recorded

variable {occurrences : List Occurrence} {state : ParseState}

theorem nodup_given (hstate : Recorded occurrences state) : state.given.Nodup := by
  rw [hstate.given]
  exact hstate.recordable.distinct

/-- Only flags of which there are occurrences are given, so help and version are not. -/
theorem request_notMem_given (hstate : Recorded occurrences state) :
    .help ∉ state.given ∧ .version ∉ state.given := by
  have hflag : ∀ occurrence : Occurrence, occurrence.flag ≠ .help ∧ occurrence.flag ≠ .version := by
    rintro (which | ⟨which, value⟩) <;> simp [Occurrence.flag]
  simp only [hstate.given, List.mem_map, not_exists, not_and]
  exact ⟨fun occurrence _ => (hflag occurrence).1, fun occurrence _ => (hflag occurrence).2⟩

theorem switch_mem_given_iff (hstate : Recorded occurrences state) {which : Switch} :
    .switch which ∈ state.given ↔ state.draft.isOn which = true := by
  have hholds := hstate.holds (.switch which)
  simp only [Draft.Holds] at hholds
  rw [hholds, hstate.given, List.mem_map]
  constructor
  · rintro ⟨occurrence | _, hmem, hflag⟩
    · simp only [Occurrence.flag, Flag.switch.injEq] at hflag
      rwa [← hflag]
    · simp [Occurrence.flag] at hflag
  · intro hmem
    exact ⟨_, hmem, rfl⟩

theorem setting_mem_given_iff (hstate : Recorded occurrences state) {which : Setting} :
    .setting which ∈ state.given ↔ ∃ value, state.draft.value? which = some value := by
  have hholds := fun value => hstate.holds (.setting which value)
  simp only [Draft.Holds] at hholds
  simp only [hholds, hstate.given, List.mem_map]
  constructor
  · rintro ⟨_ | ⟨other, value⟩, hmem, hflag⟩
    · simp [Occurrence.flag] at hflag
    · simp only [Occurrence.flag, Flag.setting.injEq] at hflag
      exact ⟨value, hflag ▸ hmem⟩
  · rintro ⟨value, hmem⟩
    exact ⟨_, hmem, rfl⟩

theorem admits_of_value? (hstate : Recorded occurrences state) {which : Setting} {value : Bytes}
    (hvalue : state.draft.value? which = some value) : which.Admits value :=
  hstate.recordable.valid _ ((hstate.holds (.setting which value)).mp hvalue)

theorem anyGiven_iff (hstate : Recorded occurrences state) :
    state.anyGiven = true ↔ state.given ≠ [] := by
  rw [hstate.anyGiven, hstate.given]
  simp

end Recorded

/-- What a state knows, told by the arguments that led to it. -/
structure ParseState.Invariant (arguments : List Bytes) (state : ParseState) : Prop where
  distinct : state.given.Nodup
  configuring : .help ∉ state.given ∧ .version ∉ state.given
  /-- The flags that the arguments name are those given, and then the pending one. -/
  named : namedFlags arguments =
    state.given ++ state.pending.toList.map fun pending => .setting pending.setting
  switches : ∀ which, .switch which ∈ state.given ↔ state.draft.isOn which = true
  settings : ∀ which, .setting which ∈ state.given ↔ ∃ value, state.draft.value? which = some value
  admitted : ∀ which value, state.draft.value? which = some value → which.Admits value
  anyGiven : state.anyGiven = true ↔ state.given ≠ []
  /-- The pending setting is written last, with its value if there is one, before any `--`. -/
  pending : ∀ pending, state.pending = some pending →
    ∃ before last closing, arguments = before ++ Unsettled.arguments last ++ closing ∧
      last.pending = pending ∧ (closing = [] ∨ closing = [Word.doubleDash])

namespace Reading

variable {reading : Reading} {state : ParseState}

theorem Describes.exists_unsettled (hreading : reading.Describes state) {pending : Pending}
    (hpending : state.pending = some pending) :
    ∃ before last closing, reading.arguments = before ++ Unsettled.arguments last ++ closing ∧
      last.pending = pending ∧ (closing = [] ∨ closing = [Word.doubleDash]) := by
  rw [hreading.pending] at hpending
  obtain ⟨last, hlast, hsame⟩ := Option.map_eq_some_iff.mp hpending
  refine ⟨reading.settled.flatMap Spelling.arguments, last,
    if reading.terminated then [Word.doubleDash] else [], ?_, hsame, ?_⟩
  · simp [arguments, flags, hlast]
  · by_cases hclosed : reading.terminated = true <;> simp [hclosed]

end Reading

/-- In every state that is reached without a fault, what counts as given, what is stored and what
is pending are just what the arguments before it say. -/
theorem invariant_of_run {arguments : List Bytes} {state : ParseState}
    (hrun : ({} : ParseState).run arguments = .ok state) : state.Invariant arguments := by
  obtain ⟨reading, hreading, rfl⟩ := Reading.exists_reading_of_run hrun
  have hrecorded := hreading.recorded
  constructor
  · exact hrecorded.nodup_given
  · exact hrecorded.request_notMem_given
  · exact namedFlags_of_run hrun
  · exact fun _ => hrecorded.switch_mem_given_iff
  · exact fun _ => hrecorded.setting_mem_given_iff
  · exact fun _ _ => hrecorded.admits_of_value?
  · exact hrecorded.anyGiven_iff
  · exact fun _ => hreading.exists_unsettled

/-- A repetition that is not detected yet: the input file is given and pending at once. -/
theorem invariant_of_run_repeated :
    let arguments := ["-F", "a", "--stop=after_typing", "--files", "-", "--"].map Utf8.encode
    let state : ParseState :=
      { given := [.setting .files, .setting (.phase .stop)]
        anyGiven := true
        draft := { files := some "a", phases := { stop := some .afterTyping } }
        pending := some ⟨.files, some [Word.dash]⟩
        terminated := true }
    ({} : ParseState).run arguments = .ok state ∧ state.Invariant arguments := by
  intro arguments state
  have hrun : ({} : ParseState).run arguments = .ok state := rfl
  exact ⟨hrun, invariant_of_run hrun⟩

end CompilerDriver
