import CompilerDriver.Proofs.CommandLine.Action

/-!
How the options of a command line are written.  A word is written in exactly one way
(`ofBytes_eq_iff`), but an option may be spelled in several: with its value attached, with its value
as an argument of its own, and for the input file by its letter.  What an argument asks of the reader
is read off how it is written (`ofArgument_eq_iff`).
-/

namespace CompilerDriver

namespace Word

def doubleDash : Bytes := [dash, dash]

/-- A value may stand as an argument of its own unless it begins like a flag. -/
def StandsAlone (value : Bytes) : Prop :=
  value = [dash] ∨ value.head? ≠ some dash

instance (value : Bytes) : Decidable (StandsAlone value) :=
  inferInstanceAs (Decidable (_ ∨ _))

/-- The argument of a given shape. -/
def toBytes : Word → Bytes
  | .terminator => doubleDash
  | .long name none => dash :: dash :: name
  | .long name (some value) => dash :: dash :: (name ++ equals :: value)
  | .short first rest => dash :: first :: rest
  | .plain bytes => bytes

/-- The words that are the shape of some argument. -/
def WellFormed : Word → Prop
  | .terminator => True
  | .long name attached => equals ∉ name ∧ (name = [] → attached ≠ none)
  | .short first _ => first ≠ dash
  | .plain bytes => StandsAlone bytes

theorem toBytes_long_cut (bytes : Bytes) :
    (long (cut equals bytes).1 (cut equals bytes).2).toBytes = dash :: dash :: bytes := by
  rcases hcut : cut equals bytes with ⟨name, _ | value⟩
  · rw [eq_of_cut_eq_none hcut, toBytes]
  · rw [eq_of_cut_eq_some hcut, toBytes]

theorem wellFormed_long_cut {bytes : Bytes} (hbytes : bytes ≠ []) :
    (long (cut equals bytes).1 (cut equals bytes).2).WellFormed := by
  refine ⟨separator_notMem_cut equals bytes, ?_⟩
  intro hname hnone
  exact hbytes ((eq_of_cut_eq_none (Prod.ext rfl hnone)).trans hname)

/-- Every argument is written as its shape is. -/
theorem ofBytes_spec (bytes : Bytes) :
    (ofBytes bytes).WellFormed ∧ (ofBytes bytes).toBytes = bytes := by
  unfold ofBytes
  split
  · exact ⟨Or.inr (Option.some_ne_none dash).symm, rfl⟩
  · rename_i first rest
    by_cases hfirst : first = dash
    · rw [if_pos hfirst, hfirst]
      split
      · exact ⟨Or.inl rfl, rfl⟩
      · rename_i second more
        by_cases hsecond : second = dash
        · rw [if_pos hsecond, hsecond]
          by_cases hmore : more = []
          · rw [if_pos hmore, hmore]
            exact ⟨trivial, rfl⟩
          · rw [if_neg hmore]
            exact ⟨wellFormed_long_cut hmore, toBytes_long_cut more⟩
        · rw [if_neg hsecond]
          exact ⟨hsecond, rfl⟩
    · rw [if_neg hfirst]
      exact ⟨Or.inr fun hhead => hfirst (Option.some.inj hhead), rfl⟩

theorem ofBytes_toBytes {word : Word} (hword : word.WellFormed) : ofBytes word.toBytes = word := by
  cases word with
  | terminator => rfl
  | long name attached =>
      obtain ⟨hname, hempty⟩ := hword
      cases attached with
      | none =>
          have hne : name ≠ [] := fun hnil => hempty hnil rfl
          simp [toBytes, ofBytes, hne, cut_of_notMem hname]
      | some value => simp [toBytes, ofBytes, cut_append_cons hname]
  | short first rest =>
      have hfirst : first ≠ dash := hword
      simp [toBytes, ofBytes, hfirst]
  | plain bytes =>
      rcases hword with rfl | hhead
      · rfl
      · cases bytes with
        | nil => rfl
        | cons first rest =>
            have hfirst : first ≠ dash := fun hdash => hhead (congrArg some hdash)
            simp [toBytes, ofBytes, hfirst]

/-- An argument has a shape exactly when it is how that shape is written. -/
theorem ofBytes_eq_iff {bytes : Bytes} {word : Word} :
    ofBytes bytes = word ↔ word.WellFormed ∧ word.toBytes = bytes := by
  constructor
  · rintro rfl
    exact ofBytes_spec bytes
  · rintro ⟨hword, rfl⟩
    exact ofBytes_toBytes hword

end Word

/-- An argument that names a setting and leaves its value to the next argument. -/
inductive Opener where
  | long (setting : Setting)
  /-- The letter of the input file. -/
  | letter
  deriving DecidableEq, Repr

/-- One use of an option in a single argument. -/
inductive Compact where
  | switch (which : Switch)
  /-- A long name with its value behind an equals sign. -/
  | attached (setting : Setting) (value : Bytes)
  /-- The letter of the input file with more behind it. -/
  | cluster (text : Bytes) (nonempty : text ≠ [])

/-- One use of an option, as it is written. -/
inductive Spelling where
  | compact (option : Compact)
  /-- A setting and its value as two arguments. -/
  | separate (opener : Opener) (value : Bytes) (alone : Word.StandsAlone value)

namespace Opener

def setting : Opener → Setting
  | .long setting => setting
  | .letter => .files

def word : Opener → Word
  | .long setting => .long (Utf8.encode setting.name) none
  | .letter => .short 'F'.toUInt8 []

def argument (opener : Opener) : Bytes :=
  opener.word.toBytes

end Opener

namespace Compact

def word : Compact → Word
  | .switch which => .long (Utf8.encode which.name) none
  | .attached setting value => .long (Utf8.encode setting.name) (some value)
  | .cluster text _ => .short 'F'.toUInt8 text

def argument (option : Compact) : Bytes :=
  option.word.toBytes

/-- What the option says; one equals sign behind the letter is not part of the value. -/
def occurrence : Compact → Occurrence
  | .switch which => .switch which
  | .attached setting value => .setting setting value
  | .cluster text _ =>
      .setting .files (if text.head? = some Word.equals then text.tail else text)

end Compact

namespace Spelling

def arguments : Spelling → List Bytes
  | .compact option => [option.argument]
  | .separate opener value _ => [opener.argument, value]

def occurrence : Spelling → Occurrence
  | .compact option => option.occurrence
  | .separate opener value _ => .setting opener.setting value

example : arguments (.compact (.attached .stdlib [0x61])) = [Utf8.encode "--stdlib=a"] := by
  decide

example : arguments (.separate .letter [Word.dash] (by decide)) =
    [Utf8.encode "-F", Utf8.encode "-"] := by
  decide

end Spelling

theorem Flag.wellFormed_long (flag : Flag) (attached : Option Bytes) :
    (Word.long (Utf8.encode flag.name) attached).WellFormed := by
  have hnames : ∀ other ∈ Flag.all,
      Word.equals ∉ Utf8.encode other.name ∧ Utf8.encode other.name ≠ [] := by
    decide +kernel
  obtain ⟨hequals, hnonempty⟩ := hnames flag (Flag.mem_all flag)
  exact ⟨hequals, fun hnil => absurd hnil hnonempty⟩

namespace Action

/-- The arguments that ask for each action. -/
inductive AskedBy : Action → Bytes → Prop where
  | terminate : AskedBy .terminate Word.doubleDash
  | take (option : Compact) : AskedBy (.take option.occurrence) option.argument
  | await (opener : Opener) : AskedBy (.await opener.setting) opener.argument
  | longHelp : AskedBy .help (Word.long (Utf8.encode Flag.help.name) none).toBytes
  | shortHelp (rest : Bytes) : AskedBy .help (Word.short 'h'.toUInt8 rest).toBytes
  | longVersion : AskedBy .version (Word.long (Utf8.encode Flag.version.name) none).toBytes
  | shortVersion (rest : Bytes) : AskedBy .version (Word.short 'V'.toUInt8 rest).toBytes
  | unknownLong {name : Bytes} (attached : Option Bytes)
      (hword : (Word.long name attached).WellFormed) (hname : Flag.ofName? name = none) :
      AskedBy (.unknownLong name) (Word.long name attached).toBytes
  | unknownLetter {first : UInt8} (rest : Bytes) (hword : (Word.short first rest).WellFormed)
      (hletter : Flag.ofLetter? first = none) :
      AskedBy (.unknownLetter (first :: rest)) (Word.short first rest).toBytes
  | needlessValue {flag : Flag} (value : Bytes) (hflag : ∀ setting, flag ≠ .setting setting) :
      AskedBy (.needlessValue flag value)
        (Word.long (Utf8.encode flag.name) (some value)).toBytes
  | plain {value : Bytes} (halone : Word.StandsAlone value) : AskedBy (.plain value) value

theorem askedBy_ofFlag (flag : Flag) (attached : Option Bytes) :
    AskedBy (ofFlag flag attached) (Word.long (Utf8.encode flag.name) attached).toBytes := by
  cases flag with
  | setting setting =>
      cases attached with
      | none => exact .await (.long setting)
      | some value => exact .take (.attached setting value)
  | switch which =>
      cases attached with
      | none => exact .take (.switch which)
      | some value => exact .needlessValue value nofun
  | help =>
      cases attached with
      | none => exact .longHelp
      | some value => exact .needlessValue value nofun
  | version =>
      cases attached with
      | none => exact .longVersion
      | some value => exact .needlessValue value nofun

theorem askedBy_ofLong {name : Bytes} {attached : Option Bytes}
    (hword : (Word.long name attached).WellFormed) :
    AskedBy (ofLong name attached) (Word.long name attached).toBytes := by
  unfold ofLong
  cases hflag : Flag.ofName? name with
  | none => exact .unknownLong attached hword hflag
  | some flag =>
      rw [Flag.ofName?_eq_some_iff.1 hflag]
      exact askedBy_ofFlag flag attached

theorem letterValue_eq (text : Bytes) :
    ParseState.letterValue text = if text.head? = some Word.equals then text.tail else text := by
  cases text with
  | nil => rfl
  | cons first rest =>
      by_cases hequals : first = Word.equals
      · simp [ParseState.letterValue, hequals]
      · simp [ParseState.letterValue, hequals]

theorem askedBy_ofShort {first : UInt8} {rest : Bytes}
    (hword : (Word.short first rest).WellFormed) :
    AskedBy (ofShort first rest) (Word.short first rest).toBytes := by
  unfold ofShort
  cases hflag : Flag.ofLetter? first with
  | none => exact .unknownLetter rest hword hflag
  | some flag =>
      have hletter := Flag.letter?_of_ofLetter? hflag
      cases flag with
      | switch which => cases hletter
      | setting setting =>
          cases setting with
          | files =>
              cases hletter
              by_cases hrest : rest = []
              · subst hrest
                exact .await .letter
              · have hasked := AskedBy.take (.cluster rest hrest)
                rw [Compact.occurrence, ← letterValue_eq] at hasked
                simp only [if_neg hrest]
                exact hasked
          | stdlib | arch | phase slot => cases hletter
      | help =>
          cases hletter
          exact .shortHelp rest
      | version =>
          cases hletter
          exact .shortVersion rest

theorem askedBy_ofArgument (argument : Bytes) : AskedBy (ofArgument argument) argument := by
  -- The argument is known by its word alone, so the cases are those of the word.
  obtain ⟨hword, hbytes⟩ := Word.ofBytes_spec argument
  unfold ofArgument
  generalize Word.ofBytes argument = word at hword hbytes
  subst hbytes
  cases word with
  | terminator => exact .terminate
  | long name attached => exact askedBy_ofLong hword
  | short first rest => exact askedBy_ofShort hword
  | plain bytes => exact .plain hword

theorem ofArgument_toBytes {word : Word} (hword : word.WellFormed) :
    ofArgument word.toBytes = ofWord word := by
  rw [ofArgument, Word.ofBytes_toBytes hword]

theorem ofArgument_long (flag : Flag) (attached : Option Bytes) :
    ofArgument (Word.long (Utf8.encode flag.name) attached).toBytes = ofFlag flag attached := by
  rw [ofArgument_toBytes (flag.wellFormed_long attached), ofWord, ofLong,
    Flag.ofName?_encode_name]

@[simp] theorem ofArgument_opener (opener : Opener) :
    ofArgument opener.argument = .await opener.setting := by
  cases opener with
  | long setting => exact ofArgument_long (.setting setting) none
  | letter => rfl

@[simp] theorem ofArgument_compact (option : Compact) :
    ofArgument option.argument = .take option.occurrence := by
  cases option with
  | switch which => exact ofArgument_long (.switch which) none
  | attached setting value => exact ofArgument_long (.setting setting) (some value)
  | cluster text hnonempty =>
      have hletter : Flag.ofLetter? 'F'.toUInt8 = some (.setting .files) := rfl
      have hword : (Word.short 'F'.toUInt8 text).WellFormed := by
        intro hdash
        cases hdash
      rw [Compact.argument, Compact.word, ofArgument_toBytes hword, ofWord, ofShort, hletter]
      simp [hnonempty, Compact.occurrence, letterValue_eq]

/-- What an argument asks for is read off how it is written. -/
theorem ofArgument_eq_iff {argument : Bytes} {action : Action} :
    ofArgument argument = action ↔ AskedBy action argument := by
  constructor
  · rintro rfl
    exact askedBy_ofArgument argument
  · intro hasked
    cases hasked with
    | terminate => rfl
    | take option => exact ofArgument_compact option
    | await opener => exact ofArgument_opener opener
    | longHelp => exact ofArgument_long .help none
    | longVersion => exact ofArgument_long .version none
    | shortHelp rest | shortVersion rest =>
        exact ofArgument_toBytes fun hdash => by cases hdash
    | unknownLong attached hword hname => rw [ofArgument_toBytes hword, ofWord, ofLong, hname]
    | unknownLetter rest hword hletter => rw [ofArgument_toBytes hword, ofWord, ofShort, hletter]
    | @needlessValue flag value hflag =>
        rw [ofArgument_long]
        cases flag with
        | setting setting => exact absurd rfl (hflag setting)
        | switch which | help | version => rfl
    | plain halone => exact @ofArgument_toBytes (.plain argument) halone

end Action

theorem Compact.occurrence_eq_of_argument_eq {option other : Compact}
    (hsame : option.argument = other.argument) : option.occurrence = other.occurrence := by
  have hasked := Action.ofArgument_compact option
  rw [hsame, Action.ofArgument_compact] at hasked
  exact (Action.take.inj hasked).symm

theorem Compact.argument_ne_opener (option : Compact) (opener : Opener) :
    option.argument ≠ opener.argument := by
  intro hsame
  have hasked := Action.ofArgument_compact option
  rw [hsame, Action.ofArgument_opener] at hasked
  cases hasked

/-- No spelling contains `--`. -/
theorem Spelling.doubleDash_notMem_arguments (spelling : Spelling) :
    Word.doubleDash ∉ spelling.arguments := by
  have hdash : Action.ofArgument Word.doubleDash = .terminate := rfl
  intro hmem
  cases spelling with
  | compact option =>
      have hasked := Action.ofArgument_compact option
      rw [← List.mem_singleton.1 hmem, hdash] at hasked
      cases hasked
  | separate opener value halone =>
      rcases List.mem_cons.1 hmem with hfirst | hlast
      · have hasked := Action.ofArgument_opener opener
        rw [← hfirst, hdash] at hasked
        cases hasked
      · have hasked := Action.ofArgument_eq_iff.2 (.plain halone)
        rw [← List.mem_singleton.1 hlast, hdash] at hasked
        cases hasked

namespace ParseState

/-- Only `--` closes a line. -/
theorem terminated_of_run {state next : ParseState} {arguments : List Bytes}
    (hopen : state.terminated = false) (hrun : state.run arguments = .ok next)
    (hdash : Word.doubleDash ∉ arguments) : next.terminated = false := by
  induction arguments generalizing state with
  | nil =>
      cases hrun
      exact hopen
  | cons argument rest ih =>
      obtain ⟨middle, hstep, hrest⟩ := bind_eq_ok_iff.1 hrun
      rw [List.mem_cons, not_or] at hdash
      have hasked : Action.ofArgument argument ≠ .terminate := by
        intro hend
        cases Action.ofArgument_eq_iff.1 hend
        exact hdash.1 rfl
      exact ih (terminated_of_step hstep hasked) hrest hdash.2

/-- A line that is still open has no `--` in it. -/
theorem doubleDash_notMem_of_run {state next : ParseState} {arguments : List Bytes}
    (hrun : state.run arguments = .ok next) (hopen : next.terminated = false) :
    Word.doubleDash ∉ arguments := by
  induction arguments generalizing state with
  | nil => exact List.not_mem_nil
  | cons argument rest ih =>
      obtain ⟨middle, hstep, hrest⟩ := bind_eq_ok_iff.1 hrun
      rw [List.mem_cons, not_or]
      refine ⟨?_, ih hrest⟩
      rintro rfl
      have hclosed : middle.terminated = true := by
        rw [step_eq_apply (step_eq_ok_iff.1 hstep).1] at hstep
        cases hstep
        rfl
      obtain ⟨_, rfl⟩ := eq_of_run_of_terminated hclosed hrest
      rw [hopen] at hclosed
      cases hclosed

end ParseState

end CompilerDriver
