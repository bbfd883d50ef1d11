/-!
Terminal escape sequences.  A text meant for a terminal carries sequences that move the cursor or
change colours; `strip` removes them together with all control characters except white space, so
that what is left is safe to store and print.

The reader is a small machine over characters.  Nothing it shows is an escape character
(`escape_notMem_strip`), plain text passes unchanged (`strip_of_forall_isShown`), and a text that
ends with `reset` leaves the reader between sequences (`modeAfter_append_reset`).
-/

namespace CompilerDriver.Terminal

/-- Where a reader of terminal output stands. -/
inductive Mode where
  /-- Between sequences. -/
  | ground
  /-- After the escape character. -/
  | escape
  /-- After the escape character and an intermediate one. -/
  | escapeIntermediate
  /-- In a control sequence, up to its final character. -/
  | control
  /-- At the start of a device control string. -/
  | device
  /-- In the parameters of a device control string. -/
  | deviceParameter
  /-- After the parameters of a device control string. -/
  | deviceIntermediate
  /-- In a string that is not shown. -/
  | hidden
  /-- In an operating system command. -/
  | command
  deriving DecidableEq, Repr

/-- A control character that counts as white space. -/
def isBlank (c : Char) : Bool :=
  c == '\t' || c == '\n' || c == '\x0c' || c == '\r'

/-- A character that is shown between sequences. -/
def isShown (c : Char) : Bool :=
  isBlank c || (' ' ≤ c && c ≠ '\x7f')

/-- The intermediate characters of a sequence. -/
def isIntermediate (c : Char) : Bool :=
  ' ' ≤ c && c ≤ '/'

/-- A character whose encoding holds the byte that ends a hidden string. -/
def endsHidden (c : Char) : Bool :=
  (String.utf8EncodeChar c).contains 0x9C

/-- The mode after a character that follows the escape character. -/
def afterEscape (c : Char) : Mode :=
  if isIntermediate c then .escapeIntermediate
  else if c = '[' then .control
  else if c = ']' then .command
  else if c = 'P' then .device
  else if c = 'X' ∨ c = '^' ∨ c = '_' then .hidden
  else if '0' ≤ c ∧ c ≤ '~' then .ground
  else .escape

/-- The mode after a character that no sequence treats specially. -/
def Mode.advance : Mode → Char → Mode
  | .ground, _ => .ground
  | .escape, c => afterEscape c
  | .escapeIntermediate, c => if '0' ≤ c ∧ c ≤ '~' then .ground else .escapeIntermediate
  | .control, c => if '@' ≤ c ∧ c ≤ '~' then .ground else .control
  | .device, c =>
    if isIntermediate c then .deviceIntermediate
    else if '0' ≤ c ∧ c ≤ '?' then .deviceParameter
    else if '@' ≤ c ∧ c ≤ '~' then .hidden
    else .device
  | .deviceParameter, c =>
    if isIntermediate c then .deviceIntermediate
    else if '<' ≤ c ∧ c ≤ '~' then .hidden
    else .deviceParameter
  | .deviceIntermediate, c => if '0' ≤ c ∧ c ≤ '~' then .hidden else .deviceIntermediate
  | .hidden, c => if endsHidden c then .ground else .hidden
  | .command, c => if c = '\x07' then .ground else .command

/-- A white space control inside one of these modes is shown and ends the sequence. -/
def Mode.yieldsToBlank : Mode → Bool
  | .escape | .escapeIntermediate | .control => true
  | _ => false

/-- The mode after a character, and whether the character is shown. -/
def Mode.read (mode : Mode) (c : Char) : Mode × Bool :=
  if c = '\x1b' then (.escape, false)
  else if c = '\x18' ∨ c = '\x1a' then (.ground, false)
  else if mode = .ground then (.ground, isShown c)
  else if mode.yieldsToBlank && isBlank c then (.ground, true)
  else (mode.advance c, false)

/-- The shown characters of a text that is read from `mode` on. -/
def stripFrom : Mode → List Char → List Char
  | _, [] => []
  | mode, c :: rest =>
    if (mode.read c).2 then c :: stripFrom (mode.read c).1 rest
    else stripFrom (mode.read c).1 rest

/-- The mode in which the reader stands after a text. -/
def modeAfter (mode : Mode) (text : List Char) : Mode :=
  text.foldl (fun m c => (m.read c).1) mode

/-- A text without its escape sequences and control characters, white space excepted. -/
def strip (text : String) : String :=
  String.ofList (stripFrom .ground text.toList)

/-- The sequence that ends any unfinished one and restores the default style. -/
def reset : String :=
  "\x1b[0m"

theorem stripFrom_append (mode : Mode) (left right : List Char) :
    stripFrom mode (left ++ right) =
      stripFrom mode left ++ stripFrom (modeAfter mode left) right := by
  induction left generalizing mode with
  | nil => rfl
  | cons c rest ih =>
    rw [List.cons_append, stripFrom, stripFrom, ih]
    split <;> rfl

theorem modeAfter_append (mode : Mode) (left right : List Char) :
    modeAfter mode (left ++ right) = modeAfter (modeAfter mode left) right :=
  List.foldl_append

/-- Whatever came before it, a reset leaves the reader between sequences. -/
theorem modeAfter_append_reset (mode : Mode) (text : List Char) :
    modeAfter mode (text ++ reset.toList) = .ground := by
  rw [modeAfter_append]
  cases modeAfter mode text <;> rfl

@[simp] theorem stripFrom_reset (mode : Mode) : stripFrom mode reset.toList = [] := by
  cases mode <;> rfl

theorem read_escape (mode : Mode) : mode.read '\x1b' = (.escape, false) := rfl

/-- No escape character is ever shown. -/
theorem escape_notMem_stripFrom (mode : Mode) (text : List Char) :
    '\x1b' ∉ stripFrom mode text := by
  induction text generalizing mode with
  | nil => exact List.not_mem_nil
  | cons c rest ih =>
    rw [stripFrom]
    split
    · rename_i shown
      rw [List.mem_cons, not_or]
      refine ⟨fun same => ?_, ih _⟩
      rw [← same, read_escape] at shown
      cases shown
    · exact ih _

theorem escape_notMem_strip (text : String) : '\x1b' ∉ (strip text).toList := by
  rw [strip, String.toList_ofList]
  exact escape_notMem_stripFrom _ _

/-- A shown character is shown between sequences, and the reader stays there. -/
theorem read_ground_of_isShown {c : Char} (h : isShown c = true) :
    Mode.ground.read c = (.ground, true) := by
  have noEscape : c ≠ '\x1b' := fun same => by subst same; cases h
  have noCancel : ¬ (c = '\x18' ∨ c = '\x1a') := by
    rintro (same | same) <;> (subst same; cases h)
  rw [Mode.read, if_neg noEscape, if_neg noCancel, if_pos rfl, h]

theorem modeAfter_ground_of_forall_isShown {text : List Char}
    (h : ∀ c ∈ text, isShown c = true) : modeAfter .ground text = .ground := by
  induction text with
  | nil => rfl
  | cons c rest ih =>
    rw [List.forall_mem_cons] at h
    rw [modeAfter, List.foldl_cons, read_ground_of_isShown h.1]
    exact ih h.2

theorem stripFrom_ground_of_forall_isShown {text : List Char}
    (h : ∀ c ∈ text, isShown c = true) : stripFrom .ground text = text := by
  induction text with
  | nil => rfl
  | cons c rest ih =>
    rw [List.forall_mem_cons] at h
    rw [stripFrom, read_ground_of_isShown h.1, if_pos rfl, ih h.2]

/-- Plain text passes unchanged. -/
theorem strip_of_forall_isShown {text : String} (h : ∀ c ∈ text.toList, isShown c = true) :
    strip text = text := by
  rw [strip, stripFrom_ground_of_forall_isShown h, String.ofList_toList]

end CompilerDriver.Terminal
