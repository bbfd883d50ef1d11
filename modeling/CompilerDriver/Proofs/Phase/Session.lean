import CompilerDriver.Phase.Editor
import CompilerDriver.Proofs.Except

/-!
Editing sessions.  What a slot holds is what the last step that touched it left there, where a
restoring step leaves what the last saving one found (`Leaves`).  Every step of an editor keeps
this up (`Follows.apply`), and words that are no step change nothing, so it holds all along a
session (`run_consistent`).
-/

namespace CompilerDriver

theorem Phase.parse_eq_ok_iff {text : String} {phase : Phase} :
    Phase.parse text = .ok phase ↔ text = phase.name := by
  rw [← Phase.ofName?_eq_some_iff]
  unfold Phase.parse
  split <;> simp_all

namespace PhaseEdit

/-- The words that ask for a step. -/
def words : PhaseEdit → List String
  | .set slot phase => ["set", slot.name, phase.name]
  | .clear slot => ["clear", slot.name]
  | .reset => ["reset"]
  | .save => ["save"]
  | .restore => ["restore"]

theorem slotOf_eq_ok_iff {name : String} {slot : PhaseSlot} :
    slotOf name = .ok slot ↔ name = slot.name := by
  unfold slotOf
  constructor
  · intro hslot
    split at hslot
    · rename_i found hfound
      obtain rfl := Except.ok.inj hslot
      unfold PhaseSlot.ofName? at hfound
      have hname := List.find?_some hfound
      exact (beq_iff_eq.mp hname).symm
    · simp at hslot
  · rintro rfl
    simp

theorem parse_words (edit : PhaseEdit) : parse edit.words = .ok edit := by
  cases edit with
  | set slot phase =>
      exact bind_eq_ok_iff.mpr ⟨phase, mapError_eq_ok_iff.mpr (Phase.parse_eq_ok_iff.mpr rfl),
        bind_eq_ok_iff.mpr ⟨slot, slotOf_eq_ok_iff.mpr rfl, rfl⟩⟩
  | clear slot => exact bind_eq_ok_iff.mpr ⟨slot, slotOf_eq_ok_iff.mpr rfl, rfl⟩
  | reset | save | restore => rfl

/-- Words ask for a step exactly when they are the words of that step. -/
theorem parse_eq_ok_iff {spoken : List String} {edit : PhaseEdit} :
    parse spoken = .ok edit ↔ spoken = edit.words := by
  constructor
  · intro hparse
    unfold parse at hparse
    split at hparse
    · obtain ⟨phase, hphase, hrest⟩ := bind_eq_ok_iff.mp hparse
      obtain ⟨slot, hslot, hedit⟩ := bind_eq_ok_iff.mp hrest
      rw [mapError_eq_ok_iff, Phase.parse_eq_ok_iff] at hphase
      rw [slotOf_eq_ok_iff] at hslot
      obtain rfl := Except.ok.inj hedit
      simp [words, hphase, hslot]
    · obtain ⟨slot, hslot, hedit⟩ := bind_eq_ok_iff.mp hparse
      rw [slotOf_eq_ok_iff] at hslot
      obtain rfl := Except.ok.inj hedit
      simp [words, hslot]
    · obtain rfl := Except.ok.inj hparse
      rfl
    · obtain rfl := Except.ok.inj hparse
      rfl
    · obtain rfl := Except.ok.inj hparse
      rfl
    · simp at hparse
  · rintro rfl
    exact parse_words edit

/-- A step touches a slot when it says what the slot holds from now on. -/
def Touches (slot : PhaseSlot) : PhaseEdit → Prop
  | .set other _ | .clear other => other = slot
  | .reset | .restore => True
  | .save => False

instance (slot : PhaseSlot) : DecidablePred (Touches slot)
  | .set other _ | .clear other => inferInstanceAs (Decidable (other = slot))
  | .reset | .restore => isTrue trivial
  | .save => isFalse id

/-- What steps leave in a slot, read off the last of them that touches it.  A restoring step leaves
what the last saving step before it found. -/
inductive Leaves (slot : PhaseSlot) : List PhaseEdit → Option Phase → Prop where
  | untouched {steps : List PhaseEdit} (quiet : ∀ edit ∈ steps, ¬Touches slot edit) :
      Leaves slot steps none
  | set (before : List PhaseEdit) (phase : Phase) {after : List PhaseEdit}
      (quiet : ∀ edit ∈ after, ¬Touches slot edit) :
      Leaves slot (before ++ .set slot phase :: after) (some phase)
  | clear (before : List PhaseEdit) {after : List PhaseEdit}
      (quiet : ∀ edit ∈ after, ¬Touches slot edit) :
      Leaves slot (before ++ .clear slot :: after) none
  | reset (before : List PhaseEdit) {after : List PhaseEdit}
      (quiet : ∀ edit ∈ after, ¬Touches slot edit) :
      Leaves slot (before ++ .reset :: after) none
  | restore {start between after : List PhaseEdit} {phase : Option Phase}
      (found : Leaves slot start phase) (last : .save ∉ between)
      (quiet : ∀ edit ∈ after, ¬Touches slot edit) :
      Leaves slot (start ++ .save :: between ++ .restore :: after) phase
  | restoreUnsaved {before after : List PhaseEdit} (unsaved : .save ∉ before)
      (quiet : ∀ edit ∈ after, ¬Touches slot edit) :
      Leaves slot (before ++ .restore :: after) none

/-- What the last saving step found in a slot. -/
inductive Saves (slot : PhaseSlot) : List PhaseEdit → Option Phase → Prop where
  | unsaved {steps : List PhaseEdit} (unsaved : .save ∉ steps) : Saves slot steps none
  | save {start between : List PhaseEdit} {phase : Option Phase}
      (found : Leaves slot start phase) (last : .save ∉ between) :
      Saves slot (start ++ .save :: between) phase

section append

variable {slot : PhaseSlot} {steps : List PhaseEdit} {phase : Option Phase} {edit : PhaseEdit}

private theorem quiet_concat {after : List PhaseEdit}
    (hafter : ∀ edit ∈ after, ¬Touches slot edit) (hedit : ¬Touches slot edit) :
    ∀ other ∈ after ++ [edit], ¬Touches slot other := by
  intro other hother
  simp only [List.mem_append, List.mem_singleton] at hother
  rcases hother with hother | rfl
  · exact hafter other hother
  · exact hedit

/-- A step that does not touch a slot leaves it as it was. -/
theorem Leaves.append (hleaves : Leaves slot steps phase) (hquiet : ¬Touches slot edit) :
    Leaves slot (steps ++ [edit]) phase := by
  induction hleaves with
  | untouched quiet => exact .untouched (quiet_concat quiet hquiet)
  | set before phase quiet =>
      simpa using Leaves.set before phase (quiet_concat quiet hquiet)
  | clear before quiet => simpa using Leaves.clear before (quiet_concat quiet hquiet)
  | reset before quiet => simpa using Leaves.reset before (quiet_concat quiet hquiet)
  | restore found last quiet _ =>
      simpa using Leaves.restore found last (quiet_concat quiet hquiet)
  | restoreUnsaved unsaved quiet =>
      simpa using Leaves.restoreUnsaved unsaved (quiet_concat quiet hquiet)

theorem Saves.append (hsaves : Saves slot steps phase) (hsave : edit ≠ .save) :
    Saves slot (steps ++ [edit]) phase := by
  cases hsaves with
  | unsaved unsaved => exact .unsaved (by simp [unsaved, hsave.symm])
  | @save start between _ found last =>
      have hlast : .save ∉ between ++ [edit] := by simp [last, hsave.symm]
      simpa using Saves.save found hlast

/-- Restoring leaves what was saved. -/
theorem Saves.restore (hsaves : Saves slot steps phase) :
    Leaves slot (steps ++ [.restore]) phase := by
  cases hsaves with
  | unsaved unsaved => exact .restoreUnsaved unsaved (by simp)
  | save found last => exact .restore found last (by simp)

end append

end PhaseEdit

namespace PhaseEditor

open PhaseEdit

variable {editor : PhaseEditor} {steps : List PhaseEdit} {slot : PhaseSlot}

/-- The editor after steps. -/
def applyAll (editor : PhaseEditor) (steps : List PhaseEdit) : PhaseEditor :=
  steps.foldl apply editor

theorem get_apply_of_not_touches {edit : PhaseEdit} (hquiet : ¬Touches slot edit) :
    (editor.apply edit).control.get slot = editor.control.get slot := by
  cases edit with
  | set other phase => exact PhaseControl.get_set_of_ne _ _ (Ne.symm hquiet)
  | clear other => exact PhaseControl.get_set_of_ne _ _ (Ne.symm hquiet)
  | reset => exact absurd trivial hquiet
  | save => rfl
  | restore => exact absurd trivial hquiet

theorem get_applyAll_of_quiet (hquiet : ∀ edit ∈ steps, ¬Touches slot edit) :
    (editor.applyAll steps).control.get slot = editor.control.get slot := by
  induction steps generalizing editor with
  | nil => rfl
  | cons edit rest ih =>
      rw [List.forall_mem_cons] at hquiet
      exact (ih hquiet.2).trans (get_apply_of_not_touches hquiet.1)

theorem saved_applyAll_of_notMem (hsave : .save ∉ steps) :
    (editor.applyAll steps).saved = editor.saved := by
  induction steps generalizing editor with
  | nil => rfl
  | cons edit rest ih =>
      simp only [List.mem_cons, not_or] at hsave
      have hedit : (editor.apply edit).saved = editor.saved := by
        cases edit with
        | save => exact absurd rfl hsave.1
        | set | clear | reset | restore => rfl
      exact (ih hsave.2).trans hedit

theorem applyAll_append_cons (before after : List PhaseEdit) (edit : PhaseEdit) :
    editor.applyAll (before ++ edit :: after) =
      ((editor.applyAll before).apply edit).applyAll after := by
  simp [applyAll]

/-- The slots of an editor hold just what its steps left. -/
theorem get_of_leaves {phase : Option Phase} (hleaves : Leaves slot steps phase) :
    (applyAll {} steps).control.get slot = phase := by
  induction hleaves with
  | untouched quiet => exact (get_applyAll_of_quiet quiet).trans (PhaseControl.get_empty slot)
  | set before phase quiet =>
      rw [applyAll_append_cons, get_applyAll_of_quiet quiet]
      exact PhaseControl.get_set_self _ _ _
  | clear before quiet =>
      rw [applyAll_append_cons, get_applyAll_of_quiet quiet]
      exact PhaseControl.get_set_self _ _ _
  | reset before quiet =>
      rw [applyAll_append_cons, get_applyAll_of_quiet quiet]
      exact PhaseControl.get_empty slot
  | @restore start between after phase found last quiet ih =>
      have hsaved : (applyAll {} (start ++ .save :: between)).saved =
          (applyAll {} start).control := by
        rw [applyAll_append_cons, saved_applyAll_of_notMem last, apply]
      rw [applyAll_append_cons, get_applyAll_of_quiet quiet, apply, hsaved]
      exact ih
  | restoreUnsaved unsaved quiet =>
      rw [applyAll_append_cons, get_applyAll_of_quiet quiet, apply,
        saved_applyAll_of_notMem unsaved]
      exact PhaseControl.get_empty slot

theorem saved_of_saves {phase : Option Phase} (hsaves : Saves slot steps phase) :
    (applyAll {} steps).saved.get slot = phase := by
  cases hsaves with
  | unsaved unsaved =>
      rw [saved_applyAll_of_notMem unsaved]
      exact PhaseControl.get_empty slot
  | save found last =>
      rw [applyAll_append_cons, saved_applyAll_of_notMem last]
      exact get_of_leaves found

/-- An editor follows steps when its slots hold what they leave, and its copy what they save. -/
structure Follows (editor : PhaseEditor) (steps : List PhaseEdit) : Prop where
  control : ∀ slot, Leaves slot steps (editor.control.get slot)
  saved : ∀ slot, Saves slot steps (editor.saved.get slot)

theorem follows_start : Follows {} [] where
  control slot := by
    simpa using @Leaves.untouched slot [] (by simp)
  saved slot := by
    simpa using @Saves.unsaved slot [] (by simp)

/-- One more step is followed. -/
theorem Follows.apply (hfollows : editor.Follows steps) (edit : PhaseEdit) :
    (editor.apply edit).Follows (steps ++ [edit]) where
  control slot := by
    by_cases htouches : Touches slot edit
    · cases edit with
      | set other phase =>
          obtain rfl : other = slot := htouches
          simpa [PhaseEditor.apply] using @Leaves.set other steps phase [] (by simp)
      | clear other =>
          obtain rfl : other = slot := htouches
          simpa [PhaseEditor.apply] using @Leaves.clear other steps [] (by simp)
      | reset =>
          simpa [PhaseEditor.apply] using @Leaves.reset slot steps [] (by simp)
      | save => exact absurd htouches id
      | restore => exact (hfollows.saved slot).restore
    · rw [get_apply_of_not_touches htouches]
      exact (hfollows.control slot).append htouches
  saved slot := by
    cases edit with
    | save => exact .save (hfollows.control slot) (by simp)
    | set | clear | reset | restore => exact (hfollows.saved slot).append (by simp)

theorem Follows.applyAll (hfollows : editor.Follows steps) (more : List PhaseEdit) :
    (editor.applyAll more).Follows (steps ++ more) := by
  induction more generalizing editor steps with
  | nil => simpa [PhaseEditor.applyAll] using hfollows
  | cons edit rest ih => simpa [PhaseEditor.applyAll] using ih (hfollows.apply edit)

theorem leaves_iff {phase : Option Phase} :
    Leaves slot steps phase ↔ (applyAll {} steps).control.get slot = phase := by
  refine ⟨get_of_leaves, ?_⟩
  rintro rfl
  exact (follows_start.applyAll steps).control slot

theorem saves_iff {phase : Option Phase} :
    Saves slot steps phase ↔ (applyAll {} steps).saved.get slot = phase := by
  refine ⟨saved_of_saves, ?_⟩
  rintro rfl
  exact (follows_start.applyAll steps).saved slot

end PhaseEditor

namespace PhaseControl

/-- The views of a control agree with its slots: its requests are those of the set slots, each once
and in the order of the slots, and it halts at the first of them that the pipeline reaches. -/
structure Coherent (control : PhaseControl) : Prop where
  mem_requests : ∀ slot phase, (slot, phase) ∈ control.requests ↔ control.get slot = some phase
  ordered : List.Sublist (control.requests.map Prod.fst)
    [.stop, .dumpAst, .dumpAstHtml, .dumpTypes, .emitStats]
  isEmpty_iff : control.isEmpty = true ↔ control.requests = []
  isEmpty_iff_halt : control.isEmpty = true ↔ control.firstHalt? = none
  earliest : ∀ phase, control.firstHalt? = some phase →
    (∃ slot, (slot, phase) ∈ control.requests) ∧
      ∀ request ∈ control.requests, ¬request.2.Before phase

theorem requests_map_fst (control : PhaseControl) :
    control.requests.map Prod.fst = PhaseSlot.all.filter fun slot => (control.get slot).isSome := by
  unfold requests
  induction PhaseSlot.all with
  | nil => rfl
  | cons slot rest ih => cases hslot : control.get slot <;> simp [hslot, ih]

theorem isEmpty_iff_requests {control : PhaseControl} :
    control.isEmpty = true ↔ control.requests = [] := by
  simp [isEmpty]

theorem isEmpty_iff_firstHalt? {control : PhaseControl} :
    control.isEmpty = true ↔ control.firstHalt? = none := by
  simp [isEmpty_iff_requests, firstHalt?]

theorem eq_iff {left right : PhaseControl} :
    left = right ↔ left.stop = right.stop ∧ left.dumpAst = right.dumpAst ∧
      left.dumpAstHtml = right.dumpAstHtml ∧ left.dumpTypes = right.dumpTypes ∧
      left.emitStats = right.emitStats := by
  cases left
  cases right
  simp

theorem coherent (control : PhaseControl) : control.Coherent where
  mem_requests _ _ := mem_requests_iff
  ordered := by
    rw [requests_map_fst]
    exact List.filter_sublist
  isEmpty_iff := isEmpty_iff_requests
  isEmpty_iff_halt := isEmpty_iff_firstHalt?
  earliest := by
    intro phase hhalt
    obtain ⟨hmem, hleast⟩ := Phase.earliest?_eq_some hhalt
    simp only [List.mem_map, Prod.exists, exists_eq_right] at hmem
    refine ⟨hmem, ?_⟩
    intro request hrequest
    exact Phase.not_before_iff.mpr (hleast _ (List.mem_map_of_mem hrequest))

end PhaseControl

/-- The steps that the words of a session ask for, in order; words that are no step ask for none. -/
inductive Asks : List (List String) → List PhaseEdit → Prop where
  | nil : Asks [] []
  | step (edit : PhaseEdit) {session : List (List String)} {steps : List PhaseEdit}
      (rest : Asks session steps) : Asks (edit.words :: session) (edit :: steps)
  | nonsense {words : List String} {session : List (List String)} {steps : List PhaseEdit}
      (none : ∀ edit : PhaseEdit, words ≠ edit.words) (rest : Asks session steps) :
      Asks (words :: session) steps

theorem exists_asks (session : List (List String)) : ∃ steps, Asks session steps := by
  induction session with
  | nil => exact ⟨[], .nil⟩
  | cons words rest ih =>
      obtain ⟨steps, hsteps⟩ := ih
      by_cases hwords : ∃ edit : PhaseEdit, words = edit.words
      · obtain ⟨edit, rfl⟩ := hwords
        exact ⟨edit :: steps, .step edit hsteps⟩
      · exact ⟨steps, .nonsense (not_exists.mp hwords) hsteps⟩

namespace PhaseEditor

open PhaseEdit

variable {editor : PhaseEditor}

/-- All that words can do to an editor: a step, or nothing but a complaint. -/
theorem step_cases (editor : PhaseEditor) (words : List String) :
    (∃ edit : PhaseEdit, words = edit.words ∧ editor.step words = (editor.apply edit, none)) ∨
      (∀ edit : PhaseEdit, words ≠ edit.words) ∧
        ∃ fault, editor.step words = (editor, some fault) := by
  cases hparse : PhaseEdit.parse words with
  | ok edit => exact .inl ⟨edit, parse_eq_ok_iff.mp hparse, by rw [step, hparse]⟩
  | error fault =>
      refine .inr ⟨?_, fault, step_of_error hparse⟩
      rintro edit rfl
      rw [parse_words] at hparse
      cases hparse

/-- The editor after the words of a session. -/
def after (editor : PhaseEditor) (session : List (List String)) : PhaseEditor :=
  session.foldl (fun editor words => (editor.step words).1) editor

theorem after_eq_applyAll {session : List (List String)} {steps : List PhaseEdit}
    (hasks : Asks session steps) : editor.after session = editor.applyAll steps := by
  induction hasks generalizing editor with
  | nil => rfl
  | step edit _ ih => simpa [after, applyAll, step, parse_words] using ih
  | @nonsense words session steps hnone _ ih =>
      rcases editor.step_cases words with ⟨edit, hwords, _⟩ | ⟨_, fault, hstep⟩
      · exact absurd hwords (hnone edit)
      · simpa [after, hstep] using ih

/-- A run shows each step as it was taken from the editor after the words before it. -/
theorem run_getElem? (editor : PhaseEditor) (before later : List (List String))
    (words : List String) :
    (editor.run (before ++ words :: later))[before.length]? =
      some ((editor.after before).step words) := by
  induction before generalizing editor with
  | nil => simp [run, after]
  | cons first before ih => simpa [run, after] using ih (editor.step first).1

end PhaseEditor

open PhaseEdit in
/-- After every step of a session, each slot holds what the last step on it left; words that are no
step are complained about and change nothing; the views of the control agree with its slots, and
it is the saved copy exactly when all slots agree. -/
theorem PhaseEditor.run_consistent (before later : List (List String)) (words : List String) :
    let previous := PhaseEditor.after {} before
    ∃ editor complaint steps,
      (PhaseEditor.run {} (before ++ words :: later))[before.length]? = some (editor, complaint) ∧
      Asks (before ++ [words]) steps ∧
      (∀ slot phase, Leaves slot steps phase ↔ editor.control.get slot = phase) ∧
      (∀ slot phase, Saves slot steps phase ↔ editor.saved.get slot = phase) ∧
      (complaint = none ↔ ∃ edit : PhaseEdit, words = edit.words) ∧
      (complaint ≠ none → editor = previous) ∧
      editor.control.Coherent ∧
      (editor.control = editor.saved ↔
        editor.control.stop = editor.saved.stop ∧
        editor.control.dumpAst = editor.saved.dumpAst ∧
        editor.control.dumpAstHtml = editor.saved.dumpAstHtml ∧
        editor.control.dumpTypes = editor.saved.dumpTypes ∧
        editor.control.emitStats = editor.saved.emitStats) := by
  intro previous
  obtain ⟨steps, hasks⟩ := exists_asks (before ++ [words])
  have hsteps : (previous.step words).1 = PhaseEditor.applyAll {} steps := by
    rw [← PhaseEditor.after_eq_applyAll hasks]
    simp [previous, PhaseEditor.after]
  have hcases := previous.step_cases words
  refine ⟨(previous.step words).1, (previous.step words).2, steps,
    PhaseEditor.run_getElem? {} before later words, hasks, ?_, ?_, ?_, ?_,
    PhaseControl.coherent _, ?_⟩
  · intro slot phase
    rw [hsteps, PhaseEditor.leaves_iff]
  · intro slot phase
    rw [hsteps, PhaseEditor.saves_iff]
  · rcases hcases with ⟨edit, hwords, hstep⟩ | ⟨hnone, fault, hstep⟩
    · simpa [hstep] using ⟨edit, hwords⟩
    · simpa [hstep] using hnone
  · rcases hcases with ⟨edit, _, hstep⟩ | ⟨_, fault, hstep⟩
    · simp [hstep]
    · simp [hstep]
  · exact PhaseControl.eq_iff

open PhaseEdit in
/-- The slot that is listed last asks for the phase that comes first, and a restored control halts
there. -/
theorem PhaseEditor.run_consistent_restored :
    let before := [["set", "emit_stats", "after_parsing"], ["set", "stop", "after_legalize"],
      ["save"], ["set", "dump_ast", "after_nothing"], ["reset"], ["clear", "stop"]]
    ∃ editor steps,
      (PhaseEditor.run {} (before ++ [["restore"]]))[before.length]? = some (editor, none) ∧
      Asks (before ++ [["restore"]]) steps ∧ Leaves .emitStats steps (some .afterParsing) ∧
      editor.control.requests = [(.stop, .afterLegalize), (.emitStats, .afterParsing)] ∧
      editor.control.firstHalt? = some .afterParsing ∧
      Phase.Before .afterParsing .afterLegalize ∧ editor.control.Coherent := by
  intro before
  obtain ⟨editor, complaint, steps, hrun, hasks, hleaves, _, _, _, hcoherent, _⟩ :=
    PhaseEditor.run_consistent before [] ["restore"]
  have hlast : (PhaseEditor.run {} (before ++ [["restore"]]))[before.length]? =
      some (⟨{ stop := some .afterLegalize, emitStats := some .afterParsing },
        { stop := some .afterLegalize, emitStats := some .afterParsing }⟩, none) := by
    decide +kernel
  rw [hlast] at hrun
  cases hrun
  exact ⟨_, steps, hlast, hasks, (hleaves _ _).mpr rfl, rfl, rfl, by decide, hcoherent⟩

end CompilerDriver
