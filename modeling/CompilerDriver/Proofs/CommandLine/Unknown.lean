import CompilerDriver.Proofs.CommandLine.HelpText
import CompilerDriver.Proofs.CommandLine.Spelling

/-!
Unknown flags.  An argument that looks like a flag and is none ends the reading wherever it stands
before `--`.  It does not matter whether a setting still waits for its value or holds a bad one, nor
what comes behind the argument, and the message begins with a line that shows it
(`load_unknown_flag`).
-/

namespace CompilerDriver

open Terminal

theorem Flag.ofName?_eq_none {name : Bytes} (hname : ∀ flag : Flag, name ≠ Utf8.encode flag.name) :
    Flag.ofName? name = none := by
  cases hflag : Flag.ofName? name with
  | none => rfl
  | some flag => exact absurd (Flag.ofName?_eq_some_iff.1 hflag) (hname flag)

/-- The bytes of the letters that stand for flags. -/
def Flag.letterBytes : Bytes :=
  ['h', 'V', 'F'].map Char.toUInt8

theorem Flag.ofLetter?_eq_none {first : UInt8} (hfirst : first ∉ Flag.letterBytes) :
    Flag.ofLetter? first = none := by
  have hletters : ∀ flag ∈ Flag.all,
      flag.letter?.map Char.toUInt8 ∈ none :: Flag.letterBytes.map some := by
    decide
  cases hflag : Flag.ofLetter? first with
  | none => rfl
  | some flag =>
      have hbyte := hletters flag (Flag.mem_all flag)
      rw [Flag.letter?_of_ofLetter? hflag] at hbyte
      exact absurd (by simpa using hbyte) hfirst

/-- The line that reports an argument which has no place. -/
def unexpectedLine (shown : String) : String :=
  "error: unexpected argument '" ++ shown ++ "' found\n"

/-- The line stands first in the message when what it shows is plain. -/
theorem Fault.beginsWith_unexpectedLine (program : String) {shown : String}
    (hshown : Plain shown) (similar : Option Flag) (usage : Usage) :
    BeginsWith (unexpectedLine shown)
      ((Fault.unexpectedArgument shown similar usage).toUsageError program).message := by
  obtain ⟨tip, htip⟩ : BeginsWith "\n" (flagTip similar ++ "\n\n") := by
    cases similar with
    | none => exact ⟨"\n", rfl⟩
    | some flag =>
        have hbegin : BeginsWith "\n" "\n\n  tip: a similar argument exists: '--" :=
          ⟨"\n  tip: a similar argument exists: '--", rfl⟩
        exact ((hbegin.append _).append _).append _
  have hassoc : ∀ a b c d e f g : String, d ++ e = "\n" ++ tip →
      a ++ b ++ c ++ d ++ e ++ f ++ g = a ++ (b ++ (c ++ "\n" ++ (tip ++ f ++ g))) := by
    intro a b c d e f g h
    calc a ++ b ++ c ++ d ++ e ++ f ++ g = a ++ b ++ c ++ (d ++ e) ++ f ++ g := by
          simp only [String.append_assoc]
      _ = a ++ (b ++ (c ++ "\n" ++ (tip ++ f ++ g))) := by
          simp only [h, String.append_assoc]
  have htext : (Fault.unexpectedArgument shown similar usage).text program = _ :=
    hassoc _ _ _ _ _ _ _ htip
  have hleft : Plain "error: unexpected argument '" := by decide
  have hright : Plain ("' found" ++ "\n") := by decide
  apply beginsWith_message rfl
  rw [htext]
  exact beginsWith_strip hleft hshown hright

/-- Whatever follows it, an argument is refused as an unknown flag with the same message. -/
def Refused (program : Bytes) (before : List Bytes) (argument : Bytes) (message : String) : Prop :=
  ∀ after, load (program :: (before ++ argument :: after)) = .error ⟨.unknownFlag, message⟩

section refuse

variable {before : List Bytes} {state : ParseState}

theorem refused_of_step (program : Bytes) (hrun : ({} : ParseState).run before = .ok state)
    {argument : Bytes} {shown : String} {similar : Option Flag} {usage : Usage}
    (hstep : state.step argument = .error (.unexpectedArgument shown similar usage)) :
    Refused program before argument ((Fault.unexpectedArgument shown similar usage).toUsageError
      (displayName (some program))).message := by
  intro after
  rw [load_cons, parse_of_step hrun hstep]
  rfl

/-- A long name that no flag has is refused, and shown without its value. -/
theorem refused_unknownLong (program : Bytes) (hrun : ({} : ParseState).run before = .ok state)
    (hopen : state.terminated = false) {name : Bytes} {attached : Option Bytes}
    (hword : (Word.long name attached).WellFormed)
    (hname : ∀ flag : Flag, name ≠ Utf8.encode flag.name) :
    ∃ message, Refused program before (Word.long name attached).toBytes message ∧
      (Plain (Utf8.lossy name) →
        BeginsWith (unexpectedLine ("--" ++ Utf8.lossy name)) message) := by
  have hasked := Action.AskedBy.unknownLong attached hword (Flag.ofName?_eq_none hname)
  have hstep : state.step (Word.long name attached).toBytes = .error (state.unknownLong name) := by
    rw [ParseState.step_eq_apply hopen, Action.ofArgument_eq_iff.2 hasked, Action.apply]
  refine ⟨_, refused_of_step program hrun hstep, ?_⟩
  intro hplain
  have hdashes : Plain "--" := by decide
  exact Fault.beginsWith_unexpectedLine _ (hdashes.append hplain) _ _

/-- A group of letters that begins with an unknown one is refused, and that letter is shown. -/
theorem refused_unknownLetter (program : Bytes) (hrun : ({} : ParseState).run before = .ok state)
    (hopen : state.terminated = false) {first : UInt8} {rest : Bytes} (hdash : first ≠ Word.dash)
    (hfirst : first ∉ Flag.letterBytes) :
    ∃ message, Refused program before (Word.short first rest).toBytes message ∧
      (Plain (ParseState.shownLetter (first :: rest)) →
        BeginsWith (unexpectedLine (ParseState.shownLetter (first :: rest))) message) := by
  have hasked := Action.AskedBy.unknownLetter rest hdash (Flag.ofLetter?_eq_none hfirst)
  have hstep : state.step (Word.short first rest).toBytes =
      .error (ParseState.stray (ParseState.shownLetter (first :: rest))) := by
    rw [ParseState.step_eq_apply hopen, Action.ofArgument_eq_iff.2 hasked, Action.apply]
  refine ⟨_, refused_of_step program hrun hstep, ?_⟩
  intro hplain
  exact Fault.beginsWith_unexpectedLine _ hplain _ _

end refuse

/-- The letter of an argument that is text is its second character. -/
theorem shownLetter_of_toBytes {first : UInt8} {rest : Bytes} {c : Char} {more : List Char}
    (htext : (Word.short first rest).toBytes = Utf8.encode (String.ofList ('-' :: c :: more))) :
    ParseState.shownLetter (first :: rest) = String.ofList ['-', c] := by
  have hbytes : Word.dash :: first :: rest =
      Word.dash :: (String.utf8EncodeChar c ++ more.flatMap String.utf8EncodeChar) := by
    rw [Utf8.encode_eq_flatMap, String.toList_ofList] at htext
    exact htext
  rw [(List.cons.inj hbytes).2, ParseState.shownLetter, Utf8.front?_encode_append]

/-- Whatever was read before it, an unknown flag before `--` is refused, and its name or letter is
shown first unless it holds control characters. -/
theorem load_unknown_flag (program : Bytes) {before : List Bytes}
    (hdash : Word.doubleDash ∉ before) {state : ParseState}
    (hrun : ({} : ParseState).run before = .ok state) :
    (∀ name attached, name ≠ [] → Word.equals ∉ name →
        (∀ flag : Flag, name ≠ Utf8.encode flag.name) →
          ∃ message, Refused program before (Word.long name attached).toBytes message ∧
            ∀ text, name = Utf8.encode text → (∀ c ∈ text.toList, ¬IsControl c) →
              BeginsWith (unexpectedLine ("--" ++ text)) message) ∧
      ∀ first rest, first ≠ Word.dash → first ∉ Flag.letterBytes →
        ∃ message, Refused program before (Word.short first rest).toBytes message ∧
          ∀ c more,
            (Word.short first rest).toBytes = Utf8.encode (String.ofList ('-' :: c :: more)) →
              ¬IsControl c → BeginsWith (unexpectedLine (String.ofList ['-', c])) message := by
  have hopen : state.terminated = false := ParseState.terminated_of_run rfl hrun hdash
  constructor
  · intro name attached hnonempty hequals hname
    have hword : (Word.long name attached).WellFormed :=
      ⟨hequals, fun hnil => absurd hnil hnonempty⟩
    obtain ⟨message, hrefused, hshown⟩ := refused_unknownLong program hrun hopen hword hname
    refine ⟨message, hrefused, ?_⟩
    rintro text rfl hcontrol
    rw [Utf8.lossy_encode] at hshown
    exact hshown (plain_of_not_isControl hcontrol)
  · intro first rest hfirst hletter
    obtain ⟨message, hrefused, hshown⟩ := refused_unknownLetter program hrun hopen hfirst hletter
    refine ⟨message, hrefused, ?_⟩
    intro c more htext hcontrol
    rw [shownLetter_of_toBytes htext] at hshown
    apply hshown
    apply plain_of_not_isControl
    rw [String.toList_ofList, List.forall_mem_cons, List.forall_mem_singleton]
    exact ⟨by decide, hcontrol⟩

/-- An unknown flag behind a value that is not checked yet, and bad. -/
theorem load_unknown_after_bad_value :
    let before := ["-F", "a", "--stop", "bad"].map Utf8.encode
    Word.doubleDash ∉ before ∧ (∃ state, ({} : ParseState).run before = .ok state) ∧
      (∃ message, Refused [] before (Utf8.encode "--stopp=v") message ∧
        BeginsWith (unexpectedLine ("--" ++ "stopp")) message) ∧
      ∃ message, Refused [] before (Utf8.encode "-é") message ∧
        BeginsWith (unexpectedLine (String.ofList ['-', 'é'])) message := by
  intro before
  have hdash : Word.doubleDash ∉ before := by decide
  have hrun : ∃ state, ({} : ParseState).run before = .ok state := ⟨_, rfl⟩
  obtain ⟨state, hstate⟩ := hrun
  obtain ⟨hlong, hshort⟩ := load_unknown_flag [] hdash hstate
  refine ⟨hdash, ⟨state, hstate⟩, ?_, ?_⟩
  · have hname : ∀ flag : Flag, Utf8.encode "stopp" ≠ Utf8.encode flag.name := by
      intro flag hsame
      have hnames : ∀ flag ∈ Flag.all, flag.name ≠ "stopp" := by decide
      exact hnames flag (Flag.mem_all flag) (Utf8.encode_injective hsame).symm
    obtain ⟨message, hrefused, hshown⟩ :=
      hlong (Utf8.encode "stopp") (some (Utf8.encode "v")) (by decide) (by decide) hname
    exact ⟨message, hrefused, hshown "stopp" rfl (by simp [IsControl])⟩
  · obtain ⟨message, hrefused, hshown⟩ := hshort 0xC3 [0xA9] (by decide) (by decide)
    exact ⟨message, hrefused, hshown 'é' [] (by decide) (by decide)⟩

end CompilerDriver
