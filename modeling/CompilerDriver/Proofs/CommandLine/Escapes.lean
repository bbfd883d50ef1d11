import CompilerDriver.Proofs.CommandLine.HelpText

/-!
Escape sequences in the words of a user.  They do not reach what is printed, and one that a word
leaves open does not hide the fixed text behind it (`load_message_sanitized`).
-/

namespace CompilerDriver

open Terminal

theorem Help.plain_text {program : String} (hprogram : Plain program) :
    Plain (Help.text program) := by
  rw [Help.text_eq]
  exact Help.plain_opening.append (hprogram.append Help.plain_closing)

/-- The help text behind a failure is that of the driver's own name. -/
theorem Help.text_programName :
    Help.text Help.programName = "compiler front-end driver\n\nUsage: frontend" ++ Help.closing := by
  rw [Help.text_eq, ← String.append_assoc]
  exact congrArg (· ++ Help.closing) (by decide)

/-- No usage error shows an escape character. -/
theorem Fault.escape_notMem_message (program : String) (fault : Fault) :
    '\x1b' ∉ (fault.toUsageError program).message.toList := by
  cases hrequest : fault.kind.isRequest with
  | true =>
      have hmessage : (fault.toUsageError program).message = strip (fault.text program) := by
        change (if fault.kind.isRequest then _ else _) = _
        rw [hrequest]
        rfl
      rw [hmessage]
      exact escape_notMem_strip _
  | false =>
      have hbreak : Plain "\n" := by decide
      have hname : Plain Help.programName := by decide
      rw [Fault.message_toUsageError program hrequest, String.toList_append, String.toList_append,
        List.mem_append, List.mem_append, not_or, not_or]
      exact ⟨⟨escape_notMem_strip _, escape_notMem_of_plain hbreak⟩,
        escape_notMem_of_plain (Help.plain_text hname)⟩

/-- Whatever bytes the arguments and the name of the program are, the message of a usage error holds
no escape character, and what is said about a failure is whole: it begins as an error, and the
pointer to help and the whole help text stand at its end, for the driver's own name. -/
theorem load_message_sanitized {arguments : List Bytes} {fault : UsageError}
    (hload : load arguments = .error fault) :
    '\x1b' ∉ fault.message.toList ∧
      (fault.kind.isRequest = false → ∃ shown, fault.message =
        "error: " ++ shown ++ "\n\nFor more information, try '--help'.\n" ++ "\n" ++
          ("compiler front-end driver\n\nUsage: frontend" ++ Help.closing)) := by
  rw [load, mapError_eq_error_iff] at hload
  obtain ⟨cause, _, rfl⟩ := hload
  rw [← Help.text_programName]
  exact ⟨cause.escape_notMem_message _, cause.exists_message _⟩

/-- The name of the program and a stray argument each leave a sequence open. -/
theorem load_message_open_sequences :
    let arguments := ["\x1b]0;cw", "\x1b[31"].map Utf8.encode
    ∃ fault, load arguments = .error fault ∧ fault.kind = .unknownFlag ∧
      '\x1b' ∉ fault.message.toList ∧ ∃ shown, fault.message =
        "error: " ++ shown ++ "\n\nFor more information, try '--help'.\n" ++ "\n" ++
          ("compiler front-end driver\n\nUsage: frontend" ++ Help.closing) := by
  intro arguments
  have houtcome : outcome (load arguments) = .error .unknownFlag := rfl
  obtain ⟨fault, hload, hkind⟩ := mapError_eq_error_iff.1 houtcome
  obtain ⟨hescape, hwhole⟩ := load_message_sanitized hload
  refine ⟨fault, hload, hkind, hescape, hwhole ?_⟩
  rw [hkind]
  rfl

end CompilerDriver
