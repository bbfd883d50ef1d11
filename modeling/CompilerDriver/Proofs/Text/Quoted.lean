import CompilerDriver.Proofs.Text.Delimited
import CompilerDriver.Proofs.Text.Every
import CompilerDriver.Text.Quoted

/-!
Reading quoted texts back.  The reader passes over a text character by character, skips what stands
outside quotation marks and undoes the escapes between them.  Each character of a quoted text is
read from its escape alone (`run_escapeChar`), so a whole quoted text is read as what was quoted,
whatever it looks like (`quoting_quote`).  Nothing that was read is taken back later, so no quoted
text begins another one (`delimited_quote`).

A quoted text holds no control character, whatever is quoted (`every_quote`).
-/

namespace CompilerDriver.Quoted

/-- A control character, of the ASCII ones or of those behind them. -/
def IsControl (c : Char) : Prop :=
  c.toNat < 0x20 ∨ 0x7F ≤ c.toNat ∧ c.toNat ≤ 0x9F

instance (c : Char) : Decidable (IsControl c) :=
  inferInstanceAs (Decidable (_ ∨ _))

/-- The digit of a hexadecimal numeral that a character stands for. -/
def digitValue? (c : Char) : Option Nat :=
  (List.range 16).find? fun digit => Nat.digitChar digit = c

/-- The character that an escape without a code point stands for. -/
def named? (c : Char) : Option Char :=
  if c = 't' then some '\t'
  else if c = 'r' then some '\r'
  else if c = 'n' then some '\n'
  else if c = '0' then some '\x00'
  else if c = '"' ∨ c = '\\' then some c
  else none

/-- Where a reader of quoted texts stands. -/
inductive Mode where
  | outside
  | inside
  /-- Behind a backslash. -/
  | escape
  /-- Behind a backslash and a `u`. -/
  | opening
  /-- In a code point, behind the digits of this number. -/
  | code (number : Nat)
  deriving DecidableEq, Repr

/-- A reader of quoted texts. -/
structure Reader where
  mode : Mode := .outside
  /-- The characters of the text that is being read. -/
  current : List Char := []
  /-- The texts that were read to their end. -/
  texts : List String := []
  deriving DecidableEq, Repr

namespace Reader

/-- The reader behind one more character of the text that is being read. -/
def put (reader : Reader) (c : Char) : Reader :=
  { reader with mode := .inside, current := reader.current ++ [c] }

/-- The reader behind the end of the text that is being read. -/
def close (reader : Reader) : Reader :=
  { texts := reader.texts ++ [String.ofList reader.current] }

/-- Reads one character, unless it stands in an escape to which it does not belong. -/
def step (reader : Reader) (c : Char) : Option Reader :=
  match reader.mode with
  | .outside => some (if c = '"' then { reader with mode := .inside } else reader)
  | .inside =>
    if c = '"' then some reader.close
    else if c = '\\' then some { reader with mode := .escape }
    else some (reader.put c)
  | .escape =>
    if c = 'u' then some { reader with mode := .opening } else (named? c).map reader.put
  | .opening => if c = '\x7b' then some { reader with mode := .code 0 } else none
  | .code number =>
    if c = '\x7d' then some (reader.put (Char.ofNat number))
    else (digitValue? c).map fun digit => { reader with mode := .code (16 * number + digit) }

/-- Reads a text. -/
def run (reader : Reader) (text : List Char) : Option Reader :=
  text.foldlM step reader

end Reader

/-- The texts that are quoted in a text, their escapes undone; none if the last one has no end or an
escape is ill formed. -/
def texts? (text : String) : Option (List String) :=
  (({} : Reader).run text.toList).bind fun reader =>
    if reader.mode = .outside then some reader.texts else none

theorem digitValue?_digitChar {digit : Nat} (hdigit : digit < 16) :
    digitValue? (Nat.digitChar digit) = some digit := by
  have hall : ∀ d, d < 16 → digitValue? (Nat.digitChar d) = some d := by decide
  exact hall digit hdigit

theorem exists_digitChar_of_mem_toDigits {number : Nat} {c : Char}
    (hc : c ∈ Nat.toDigits 16 number) : ∃ digit < 16, c = Nat.digitChar digit := by
  induction number using Nat.strongRecOn with
  | ind number ih =>
      rw [Nat.toDigits_eq_if (by decide)] at hc
      split at hc
      · rename_i hsmall
        exact ⟨number, hsmall, List.mem_singleton.1 hc⟩
      · rcases List.mem_append.1 hc with hfront | hlast
        · exact ih (number / 16) (by omega) hfront
        · exact ⟨number % 16, Nat.mod_lt _ (by decide), List.mem_singleton.1 hlast⟩

/-- A character is quoted by a name, as it stands, or by its code point. -/
theorem escapeChar_cases (c : Char) :
    (∃ name ∈ "trn0\"\\".toList,
        named? name = some c ∧ escapeChar c = ['\\', name]) ∨
      (c ≠ '"' ∧ c ≠ '\\' ∧ Printable.isPrintable c = true ∧ escapeChar c = [c]) ∨
      escapeChar c = '\\' :: 'u' :: '\x7b' :: (codeDigits c ++ ['\x7d']) := by
  unfold escapeChar
  split
  · rename_i htab
    exact Or.inl ⟨'t', by decide, htab ▸ rfl, rfl⟩
  split
  · rename_i hreturn
    exact Or.inl ⟨'r', by decide, hreturn ▸ rfl, rfl⟩
  split
  · rename_i hnewline
    exact Or.inl ⟨'n', by decide, hnewline ▸ rfl, rfl⟩
  split
  · rename_i hzero
    exact Or.inl ⟨'0', by decide, hzero ▸ rfl, rfl⟩
  split
  · rename_i hquote
    exact Or.inl ⟨'"', by decide, by rw [hquote]; rfl, rfl⟩
  split
  · rename_i hbackslash
    exact Or.inl ⟨'\\', by decide, by rw [hbackslash]; rfl, rfl⟩
  rename_i hquote hbackslash
  split
  · rename_i hprintable
    exact Or.inr (Or.inl ⟨hquote, hbackslash, hprintable, rfl⟩)
  · exact Or.inr (Or.inr rfl)

/-- A character as it is quoted shows no control character. -/
theorem not_isControl_of_mem_escapeChar {c shown : Char} (hshown : shown ∈ escapeChar c) :
    ¬IsControl shown := by
  have hnames : Every (fun c => ¬IsControl c) "trn0\"\\" := by decide
  have hdigits : ∀ digit, digit < 16 → ¬IsControl (Nat.digitChar digit) := by decide
  obtain ⟨name, hname, -, hescape⟩ | ⟨-, -, hprintable, hescape⟩ | hescape := escapeChar_cases c
  · rw [hescape, List.mem_cons, List.mem_singleton] at hshown
    obtain rfl | rfl := hshown
    · decide
    · exact hnames shown hname
  · rw [hescape, List.mem_singleton] at hshown
    intro hcontrol
    rw [hshown] at hcontrol
    rw [Printable.not_isPrintable_of_control hcontrol] at hprintable
    cases hprintable
  · rw [hescape] at hshown
    simp only [List.mem_cons, List.mem_append, List.not_mem_nil, or_false] at hshown
    obtain rfl | rfl | rfl | hdigit | rfl := hshown
    · decide
    · decide
    · decide
    · obtain ⟨digit, hsmall, rfl⟩ := exists_digitChar_of_mem_toDigits hdigit
      exact hdigits digit hsmall
    · decide

theorem every_quote (text : String) : Every (fun c => ¬IsControl c) (quote text) := by
  intro shown hshown
  rw [quote, String.toList_ofList, List.mem_append, List.mem_cons, List.mem_singleton] at hshown
  obtain (rfl | hshown) | rfl := hshown
  · decide
  · obtain ⟨c, -, hescape⟩ := List.mem_flatMap.1 hshown
    exact not_isControl_of_mem_escapeChar hescape
  · decide

namespace Reader

variable {reader next : Reader}

theorem run_append (reader : Reader) (left right : List Char) :
    reader.run (left ++ right) = (reader.run left).bind fun next => next.run right :=
  List.foldlM_append

theorem run_cons (reader : Reader) (c : Char) (rest : List Char) :
    reader.run (c :: rest) = (reader.step c).bind fun next => next.run rest :=
  List.foldlM_cons

/-- The digits of a code point are read as the code point. -/
theorem run_toDigits (current : List Char) (texts : List String) (number : Nat) :
    run ⟨.code 0, current, texts⟩ (Nat.toDigits 16 number) =
      some ⟨.code number, current, texts⟩ := by
  have hdigit : ∀ front digit, digit < 16 →
      step ⟨.code front, current, texts⟩ (Nat.digitChar digit) =
        some ⟨.code (16 * front + digit), current, texts⟩ := by
    intro front digit hdigit
    have hend : ∀ d, d < 16 → Nat.digitChar d ≠ '\x7d' := by decide
    simp [step, hend digit hdigit, digitValue?_digitChar hdigit]
  induction number using Nat.strongRecOn with
  | ind number ih =>
      rw [Nat.toDigits_eq_if (by decide)]
      split
      · rename_i hsmall
        rw [run_cons, hdigit 0 number hsmall, Nat.mul_zero, Nat.zero_add]
        rfl
      · have hlast := hdigit (number / 16) (number % 16) (Nat.mod_lt _ (by decide))
        rw [run_append, ih (number / 16) (by omega), Option.bind_some, run_cons, hlast,
          Nat.div_add_mod]
        rfl

/-- A character of a quoted text is read from its escape. -/
theorem run_escapeChar (current : List Char) (texts : List String) (c : Char) :
    run ⟨.inside, current, texts⟩ (escapeChar c) = some ⟨.inside, current ++ [c], texts⟩ := by
  obtain ⟨name, hname, hnamed, hescape⟩ | ⟨hquote, hbackslash, -, hescape⟩ | hescape :=
    escapeChar_cases c
  · have hletter : name ≠ 'u' := by
      intro hu
      rw [hu] at hnamed
      cases hnamed
    rw [hescape, run_cons]
    change run ⟨.escape, current, texts⟩ [name] = _
    simp [run, step, hletter, hnamed, put]
  · rw [hescape]
    simp [run, step, hquote, hbackslash, put]
  · rw [hescape, run_cons]
    change run ⟨.code 0, current, texts⟩ (codeDigits c ++ ['\x7d']) = _
    rw [run_append, codeDigits, run_toDigits, Option.bind_some]
    simp [run, step, put]

theorem run_escape (current : List Char) (texts : List String) (text : List Char) :
    run ⟨.inside, current, texts⟩ (escape text) = some ⟨.inside, current ++ text, texts⟩ := by
  induction text generalizing current with
  | nil => simp [run]
  | cons c text ih => rw [escape_cons, run_append, run_escapeChar, Option.bind_some, ih,
      List.append_assoc, List.singleton_append]

/-- What was read is not taken back. -/
theorem texts_prefix_of_step {c : Char} (hstep : reader.step c = some next) :
    reader.texts <+: next.texts := by
  unfold step at hstep
  split at hstep
  · cases hstep
    split <;> exact List.prefix_refl _
  · split at hstep
    · cases hstep
      exact List.prefix_append _ _
    · split at hstep <;> (cases hstep; exact List.prefix_refl _)
  · split at hstep
    · cases hstep
      exact List.prefix_refl _
    · obtain ⟨_, _, rfl⟩ := Option.map_eq_some_iff.1 hstep
      exact List.prefix_refl _
  · split at hstep
    · cases hstep
      exact List.prefix_refl _
    · cases hstep
  · split at hstep
    · cases hstep
      exact List.prefix_refl _
    · obtain ⟨_, _, rfl⟩ := Option.map_eq_some_iff.1 hstep
      exact List.prefix_refl _

theorem texts_prefix_of_run {text : List Char} (hrun : reader.run text = some next) :
    reader.texts <+: next.texts := by
  induction text generalizing reader with
  | nil =>
      cases hrun
      exact List.prefix_refl _
  | cons c rest ih =>
      rw [run_cons] at hrun
      obtain ⟨middle, hstep, hrest⟩ := Option.bind_eq_some_iff.1 hrun
      exact (texts_prefix_of_step hstep).trans (ih hrest)

end Reader

/-- A text in which exactly these texts are quoted, and to their end. -/
def Quoting (text : List Char) (texts : List String) : Prop :=
  ∀ before : List String, Reader.run { texts := before } text = some { texts := before ++ texts }

theorem quoting_of_notMem {text : List Char} (htext : '"' ∉ text) : Quoting text [] := by
  intro before
  rw [List.append_nil]
  induction text with
  | nil => rfl
  | cons c rest ih =>
      rw [List.mem_cons, not_or] at htext
      have hc : c ≠ '"' := Ne.symm htext.1
      rw [Reader.run_cons]
      simpa [Reader.step, hc] using ih htext.2

/-- A quoted text is read as what was quoted. -/
theorem quoting_quote (text : String) : Quoting (quote text).toList [text] := by
  intro before
  rw [quote, String.toList_ofList, List.cons_append, Reader.run_cons]
  change Reader.run ⟨.inside, [], before⟩ (escape text.toList ++ ['"']) = _
  rw [Reader.run_append, Reader.run_escape, Option.bind_some]
  simp [Reader.run, Reader.step, Reader.close]

theorem Quoting.append {left right : List Char} {first second : List String}
    (hleft : Quoting left first) (hright : Quoting right second) :
    Quoting (left ++ right) (first ++ second) := by
  intro before
  rw [Reader.run_append, hleft, Option.bind_some, hright, List.append_assoc]

theorem quoting_intercalate {separator : List Char} (hseparator : '"' ∉ separator)
    {pieces : List (List Char)} {texts : List (List String)}
    (hpieces : List.Forall₂ Quoting pieces texts) :
    Quoting (separator.intercalate pieces) texts.flatten := by
  induction hpieces with
  | nil => exact fun before => by simp [Reader.run]
  | @cons piece first pieces rest hpiece hrest ih =>
      cases hrest with
      | nil => simpa using hpiece
      | cons =>
          rw [List.intercalate_cons_cons, List.flatten_cons, List.append_assoc]
          have hbehind := (quoting_of_notMem hseparator).append ih
          rw [List.nil_append] at hbehind
          exact hpiece.append hbehind

theorem texts?_of_quoting {text : String} {texts : List String}
    (htext : Quoting text.toList texts) : texts? text = some texts := by
  rw [texts?, htext, Option.bind_some]
  rfl

example :
    texts? (quote "\", arch: \"x64" ++ ", arch: " ++ quote "\\u\x7b301\x7d" ++ quote "\u0301") =
      some ["\", arch: \"x64", "\\u\x7b301\x7d", "\u0301"] := by
  decide +kernel

theorem eq_of_quote_isPrefix_quote {left right : String}
    (hbegins : (quote left).toList <+: (quote right).toList) : left = right := by
  obtain ⟨rest, hrest⟩ := hbegins
  have hright := quoting_quote right []
  rw [← hrest, Reader.run_append, quoting_quote left, Option.bind_some] at hright
  have hkept := Reader.texts_prefix_of_run hright
  simpa using hkept

/-- No quoted text begins another one. -/
theorem delimited_quote (left right : String) :
    Delimited (fun text => (quote text).toList) left right := by
  apply delimited_of_prefix_imp
  · exact eq_of_quote_isPrefix_quote
  · intro hbegins
    exact (eq_of_quote_isPrefix_quote hbegins).symm

end CompilerDriver.Quoted
