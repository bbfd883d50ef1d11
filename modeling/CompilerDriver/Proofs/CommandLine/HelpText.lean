import CompilerDriver.Proofs.CommandLine.ErrorText
import CompilerDriver.Proofs.CommandLine.Outcome

/-!
The help text.  It is plain but for the name of the program, and every failure carries it behind an
error text (`failuresEndWith_programName`).  What a failure carries is the help text of the driver's
own name, whatever the program is called, while `--help` prints the name of the program
(`load_help`): the two agree for that one name alone.
-/

namespace CompilerDriver

open Terminal

namespace Help

theorem plain_purpose (flag : Flag) : Plain (purpose flag) := by
  cases flag with
  | setting which =>
      cases which with
      | phase slot =>
          have hslot : Plain (slotPurpose slot) := by cases slot <;> decide
          have hspace : Plain " " := by decide
          exact (hslot.append hspace).append plain_possibleValues
      | stdlib | arch | files => decide
  | switch which => cases which <;> decide
  | help | version => decide

theorem plain_forms (flag : Flag) : Plain (forms flag) := by
  have hall : ∀ flag ∈ Flag.all, Plain (forms flag) := by decide +kernel
  exact hall flag (Flag.mem_all flag)

theorem plain_line (flag : Flag) : Plain (line flag) := by
  have hspaces : ∀ count, Plain (String.ofList (List.replicate count ' ')) := by
    intro count c hc
    rw [String.toList_ofList] at hc
    rw [List.eq_of_mem_replicate hc]
    rfl
  have hend : Plain "\n" := by decide
  exact (((plain_forms flag).append (hspaces _)).append (plain_purpose flag)).append hend

/-- What the help text says before the name of the program. -/
def opening : String := "compiler front-end driver\n\nUsage: "

/-- What the help text says after the name of the program. -/
def closing : String :=
  let phases := " [possible values: after_parsing, after_symbolizing, after_typing, " ++
    "after_partial_eval, after_initial_lowering, after_optimization, " ++
    "after_eliminate_span_and_union, after_large_arg_conversion, after_legalize, " ++
    "after_name_cleanup]\n"
  " [OPTIONS] --files <FILE>\n\nOptions:\n" ++
    "      --shake_tree             remove unreachable functions\n" ++
    "      --stdlib <PATH>          path to stdlib directory [default: ./Lib]\n" ++
    "      --arch <ARCH>            architecture to generated IR for [default: x64]\n" ++
    "      --emit_ir                stop at the given stage and emit ir\n" ++
    "  -F, --files <FILE>           an input source file\n" ++
    "      --stop <PHASE>           stop at the given stage" ++ phases ++
    "      --dump_ast <PHASE>       stop at the given stage and dump ast" ++ phases ++
    "      --dump_ast_html <PHASE>  stop at the given stage and dump ast in html format" ++ phases ++
    "      --dump_types <PHASE>     stop at the given stage and dump types" ++ phases ++
    "      --emit_stats <PHASE>     stop at the given stage and emit stats" ++ phases ++
    "  -h, --help                   Print help\n" ++
    "  -V, --version                Print version\n"

theorem closing_eq :
    callForm ++ ("\n\nOptions:\n" ++ String.join (Flag.all.map line)) = closing := by
  decide +kernel

/-- The whole help text: only the name of the program in it varies. -/
theorem text_eq (program : String) : text program = opening ++ (program ++ closing) := by
  have hassoc : ∀ a b c d e : String, a ++ b ++ c ++ d ++ e = a ++ (b ++ (c ++ (d ++ e))) := by
    intro a b c d e
    simp only [String.append_assoc]
  rw [← closing_eq]
  exact hassoc opening program callForm _ _

theorem plain_opening : Plain opening := by decide

theorem plain_closing : Plain closing := by
  have hoptions : Plain "\n\nOptions:\n" := by decide
  rw [← closing_eq]
  refine plain_callForm.append (hoptions.append (plain_join ?_))
  intro line hline
  obtain ⟨flag, _, rfl⟩ := List.mem_map.1 hline
  exact plain_line flag

/-- The name in a help text is stripped, and the rest of it is kept. -/
theorem strip_text_userWord (word : String) :
    strip (text (userWord word)) = text (strip word) := by
  rw [text_eq, text_eq, strip_append_of_plain plain_opening, strip_userWord_append,
    strip_of_plain plain_closing]

end Help

/-- The name of a program as its messages show it. -/
def shownName (program : Bytes) : String :=
  strip (displayName (some program))

/-- Each failure of a program says what is wrong and ends with the given help text. -/
def FailuresEndWith (program : Bytes) (help : String) : Prop :=
  ∀ arguments fault, load (program :: arguments) = .error fault → fault.kind.isRequest = false →
    ∃ text, fault.message = "error: " ++ text ++ "\n" ++ help

theorem load_help (program : Bytes) :
    load [program, Utf8.encode "--help"] =
      .error ⟨.helpRequested, Help.text (shownName program)⟩ := by
  have hparse : parse [Utf8.encode "--help"] = .error .help := rfl
  rw [load_cons, hparse]
  refine congrArg Except.error (congrArg (UsageError.mk .helpRequested) ?_)
  exact Help.strip_text_userWord (displayName (some program))

theorem failuresEndWith_programName (program : Bytes) :
    FailuresEndWith program (Help.text Help.programName) := by
  intro arguments fault hload hkind
  rw [load_cons, mapError_eq_error_iff] at hload
  obtain ⟨cause, _, rfl⟩ := hload
  obtain ⟨shown, hmessage⟩ := Fault.exists_message (displayName (some program)) hkind
  exact ⟨shown ++ Fault.tryHelp, by rw [hmessage, ← String.append_assoc]⟩

theorem load_files_waiting (program : Bytes) :
    load [program, Utf8.encode "--files"] = .error ⟨.malformed,
      Fault.valueRequiredText .files ++ "\n" ++ Help.text Help.programName⟩ := by
  have hparse : parse [Utf8.encode "--files"] = .error (.valueRequired .files) := rfl
  have hplain : Plain (Fault.valueRequiredText .files) := by decide +kernel
  have hmessage : ((Fault.valueRequired .files).toUsageError (displayName (some program))).message =
      strip (Fault.valueRequiredText .files) ++ "\n" ++ Help.text Help.programName :=
    Fault.message_toUsageError _ rfl
  rw [strip_of_plain hplain] at hmessage
  rw [load_cons, hparse]
  exact congrArg Except.error (congrArg (UsageError.mk .malformed) hmessage)

/-- What stands behind a mark is determined when the mark stands at one place only. -/
theorem eq_of_append_mark_eq {α : Type} {before mark after other left : List α}
    (honce : ∀ place ≤ (before ++ (mark ++ after)).length,
      mark <+: (before ++ (mark ++ after)).drop place → place = before.length)
    (hsame : before ++ (mark ++ after) = other ++ (mark ++ left)) : after = left := by
  have hplace : other.length = before.length := by
    apply honce
    · rw [hsame, List.length_append]
      exact Nat.le_add_right _ _
    · rw [hsame, List.drop_left]
      exact List.prefix_append mark left
  exact List.append_cancel_left (List.append_inj hsame hplace.symm).2

theorem Help.name_eq_of_append_eq {name text : String}
    (hsame : Fault.valueRequiredText .files ++ "\n" ++ Help.text Help.programName =
      text ++ "\n" ++ Help.text name) :
    name = Help.programName := by
  have hlists : ∀ front text line opening name other closing : String,
      front ++ line ++ (opening ++ (name ++ closing)) =
          text ++ line ++ (opening ++ (other ++ closing)) →
        front.toList ++ ((line ++ opening).toList ++ name.toList) =
          text.toList ++ ((line ++ opening).toList ++ other.toList) := by
    intro front text line opening name other closing h
    have hchars := congrArg String.toList h
    simp only [String.toList_append, ← List.append_assoc, List.append_left_inj] at hchars ⊢
    exact hchars
  rw [Help.text_eq, Help.text_eq] at hsame
  have hchars := hlists _ _ _ _ _ _ _ hsame
  exact (String.toList_inj.1 (eq_of_append_mark_eq (by decide +kernel) hchars)).symm

/-- The help text behind a failure bears the driver's own name.  So it is what the program itself
prints for `--help` exactly when the program is shown under that name. -/
theorem load_failure_help (program : Bytes) :
    load [program, Utf8.encode "--help"] =
        .error ⟨.helpRequested, Help.text (shownName program)⟩ ∧
      FailuresEndWith program (Help.text Help.programName) ∧
      (FailuresEndWith program (Help.text (shownName program)) ↔
        shownName program = Help.programName) := by
  refine ⟨load_help program, failuresEndWith_programName program, ?_, ?_⟩
  · intro hends
    obtain ⟨text, hmessage⟩ := hends _ _ (load_files_waiting program) rfl
    exact Help.name_eq_of_append_eq hmessage
  · intro hname
    rw [hname]
    exact failuresEndWith_programName program

/-- So a program of another name does not append its own help. -/
theorem not_forall_failure_ends_with_own_help :
    ¬∀ (program : Bytes) (arguments : List Bytes) (fault help : UsageError),
      load (program :: arguments) = .error fault → fault.kind.isRequest = false →
        load [program, Utf8.encode "--help"] = .error help →
          ∃ text, fault.message = text ++ "\n" ++ help.message := by
  intro hends
  obtain ⟨text, hmessage⟩ := hends (Utf8.encode "cw") _ _ _ (load_files_waiting _) rfl (load_help _)
  have hname := Help.name_eq_of_append_eq hmessage
  revert hname
  decide +kernel

end CompilerDriver
