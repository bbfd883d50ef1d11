import CompilerDriver.Proofs.CommandLine.Reading

/-!
The flags that a line names.  They are read off the arguments one by one, whatever the spelling and
the value, and in every state that is reached without a fault they are the flags that were given
and then the one that is pending (`namedFlags_of_run`).
-/

namespace CompilerDriver

/-- The configuring flag that an argument names, with or without a value behind it. -/
def Flag.named? (argument : Bytes) : Option Flag :=
  match Action.ofArgument argument with
  | .take occurrence => some occurrence.flag
  | .await which => some (.setting which)
  | _ => none

/-- The configuring flags that arguments name, in the order in which they stand. -/
def namedFlags (arguments : List Bytes) : List Flag :=
  arguments.filterMap Flag.named?

namespace Flag

/-- An argument names a flag when it is a use of it, or the beginning of one. -/
theorem named?_eq_some_iff {argument : Bytes} {flag : Flag} :
    named? argument = some flag ↔
      (∃ option : Compact, option.argument = argument ∧ option.occurrence.flag = flag) ∨
        ∃ opener : Opener, opener.argument = argument ∧ .setting opener.setting = flag := by
  unfold named?
  constructor
  · intro hnamed
    split at hnamed
    · rename_i occurrence hasked
      cases Action.ofArgument_eq_iff.1 hasked with
      | take option => exact Or.inl ⟨option, rfl, Option.some.inj hnamed⟩
    · rename_i which hasked
      cases Action.ofArgument_eq_iff.1 hasked with
      | await opener => exact Or.inr ⟨opener, rfl, Option.some.inj hnamed⟩
    · cases hnamed
  · rintro (⟨option, rfl, rfl⟩ | ⟨opener, rfl, rfl⟩)
    · rw [Action.ofArgument_compact]
    · rw [Action.ofArgument_opener]

@[simp] theorem named?_compact (option : Compact) :
    named? option.argument = some option.occurrence.flag :=
  named?_eq_some_iff.2 (Or.inl ⟨option, rfl, rfl⟩)

@[simp] theorem named?_opener (opener : Opener) :
    named? opener.argument = some (.setting opener.setting) :=
  named?_eq_some_iff.2 (Or.inr ⟨opener, rfl, rfl⟩)

theorem named?_of_standsAlone {value : Bytes} (halone : Word.StandsAlone value) :
    named? value = none := by
  rw [named?, Action.ofArgument_eq_iff.2 (.plain halone)]

end Flag

theorem namedFlags_append (left right : List Bytes) :
    namedFlags (left ++ right) = namedFlags left ++ namedFlags right :=
  List.filterMap_append

theorem namedFlags_spelling (spelling : Spelling) :
    namedFlags spelling.arguments = [spelling.occurrence.flag] := by
  cases spelling with
  | compact option => simp [namedFlags, Spelling.arguments, Spelling.occurrence]
  | separate opener value halone =>
      simp [namedFlags, Spelling.arguments, Spelling.occurrence, Occurrence.flag,
        Flag.named?_of_standsAlone halone]

theorem namedFlags_spellings (spellings : List Spelling) :
    namedFlags (spellings.flatMap Spelling.arguments) =
      spellings.map fun spelling => spelling.occurrence.flag := by
  induction spellings with
  | nil => rfl
  | cons spelling rest ih =>
      rw [List.flatMap_cons, namedFlags_append, namedFlags_spelling, ih, List.map_cons,
        List.singleton_append]

example : namedFlags (["-F", "a", "--emit_ir", "--stop=bad"].map Utf8.encode) =
    [.setting .files, .switch .emitIr, .setting (.phase .stop)] := by
  decide

theorem namedFlags_unsettled (last : Unsettled) :
    namedFlags last.arguments = [.setting last.pending.setting] := by
  cases last with
  | waiting opener => simp [namedFlags, Unsettled.arguments, Unsettled.pending]
  | held opener value halone =>
      simp [namedFlags, Unsettled.arguments, Unsettled.pending, Flag.named?_of_standsAlone halone]

section run

variable {arguments : List Bytes} {state last : ParseState}

/-- The flags that were named are those given and settled, and behind them the pending one. -/
theorem namedFlags_of_run (hrun : ({} : ParseState).run arguments = .ok state) :
    namedFlags arguments =
      state.given ++ state.pending.toList.map fun pending => .setting pending.setting := by
  obtain ⟨reading, hreading, rfl⟩ := Reading.exists_reading_of_run hrun
  have hclosing :
      namedFlags (if reading.terminated then [Word.doubleDash] else []) = [] := by
    cases reading.terminated <;> rfl
  have hunsettled : namedFlags (reading.unsettled.toList.flatMap Unsettled.arguments) =
      state.pending.toList.map fun pending => .setting pending.setting := by
    rw [hreading.pending]
    cases reading.unsettled with
    | none => rfl
    | some last => simp [namedFlags_unsettled]
  rw [Reading.arguments, Reading.flags, namedFlags_append, namedFlags_append, hclosing, hunsettled,
    namedFlags_spellings, hreading.recorded.given, List.append_nil, List.map_map]
  rfl

/-- When the end of a line settles what is pending, the flags that were named have been given. -/
theorem given_of_settled (hrun : ({} : ParseState).run arguments = .ok state)
    (hsettled : state.settled = .ok last) : last.given = namedFlags arguments := by
  rw [namedFlags_of_run hrun]
  rcases hpending : state.pending with _ | ⟨setting, _ | value⟩
  · rw [ParseState.settled_of_pending_eq_none hpending] at hsettled
    cases hsettled
    exact (List.append_nil _).symm
  · rw [ParseState.settled, ParseState.settle, hpending] at hsettled
    cases hsettled
  · rw [ParseState.settled, ParseState.settle, hpending] at hsettled
    obtain ⟨_, _, _, rfl⟩ := ParseState.record_eq_ok_iff.1 hsettled
    rfl

end run

end CompilerDriver
