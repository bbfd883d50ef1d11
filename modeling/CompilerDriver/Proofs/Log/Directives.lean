import CompilerDriver.Log.Filter

/-!
How a directive is written.  A threshold is named by its word or by its number, and no text is both
(`Threshold.ofText?_eq_some_iff`).  A part of a filter without brackets spells a directive in one of
four ways, and it is read as the directive that it spells (`Directive.ofPart?_eq_some_iff`); so it
spells no other.
-/

namespace CompilerDriver.Log

variable {text part : List Char} {threshold : Threshold} {directive : Directive}

/-- A text names a threshold by its word, in any case of the letters, or by its number. -/
inductive Threshold.Names : List Char → Threshold → Prop where
  | word {text : List Char} {threshold : Threshold}
      (hword : foldCase (String.ofList text) = threshold.word) : Names text threshold
  | number {text : List Char} {threshold : Threshold} {number : Nat}
      (hnumber : numeral? text = some number) (hplace : all[number]? = some threshold) :
      Names text threshold

namespace Threshold

theorem isLower_of_mem_word (threshold : Threshold) :
    ∀ c ∈ threshold.word.toList, c.isLower = true := by
  have hall : threshold.word.toList.all Char.isLower = true := by
    rcases threshold with _ | level
    · decide
    · cases level <;> decide
  exact List.all_eq_true.mp hall

theorem toList_word_ne_nil (threshold : Threshold) : threshold.word.toList ≠ [] := by
  rcases threshold with _ | level
  · decide
  · cases level <;> decide

theorem find?_word (threshold : Threshold) :
    (all.find? fun other => other.word == threshold.word) = some threshold := by
  rcases threshold with _ | level
  · decide
  · cases level <;> decide

theorem toList_word (hword : foldCase (String.ofList text) = threshold.word) :
    threshold.word.toList = text.map Char.toLower := by
  rw [← hword, foldCase, String.toList_map, String.toList_ofList]

/-- Whatever is the same in small letters is a letter in a text that spells a word. -/
theorem isLower_of_foldCase {c : Char}
    (hword : foldCase (String.ofList text) = threshold.word) (hmem : c ∈ text)
    (hsmall : c.toLower = c) : c.isLower = true := by
  apply threshold.isLower_of_mem_word
  rw [toList_word hword]
  exact List.mem_map.2 ⟨c, hmem, hsmall⟩

/-- The word of a threshold is no numeral. -/
theorem numeral?_eq_none_of_foldCase
    (hword : foldCase (String.ofList text) = threshold.word) : numeral? text = none := by
  rcases hnumber : numeral? text with _ | number
  · rfl
  · obtain ⟨digits, hdigits, hall, htext⟩ := exists_digits_of_numeral? hnumber
    obtain ⟨c, hmem⟩ := List.exists_mem_of_ne_nil digits hdigits
    have hdigit : c.isDigit = true := hall c hmem
    have htextMem : c ∈ text := by rcases htext with rfl | rfl <;> simp [hmem]
    have hlower : c.isLower = true :=
      isLower_of_foldCase hword htextMem (toLower_eq_of_isDigit hdigit)
    exact absurd hlower (not_isLower_of_isDigit hdigit)

/-- A text is read as the threshold that it names. -/
theorem ofText?_eq_some_iff :
    ofText? (String.ofList text) = some threshold ↔ Names text threshold := by
  rw [ofText?, String.toList_ofList]
  constructor
  · intro hread
    -- A text that is no numeral is looked up among the words, any other only by its place.
    rcases hnumber : numeral? text with _ | number
    · rw [hnumber] at hread
      have hfound := List.find?_some hread
      exact .word (beq_iff_eq.1 hfound).symm
    · rw [hnumber] at hread
      exact .number hnumber hread
  · intro hnames
    cases hnames with
    | word hword =>
        rw [numeral?_eq_none_of_foldCase hword, hword]
        exact find?_word threshold
    | number hnumber hplace =>
        rw [hnumber]
        exact hplace

theorem ofText?_eq_none_iff :
    ofText? (String.ofList text) = none ↔ ∀ threshold, ¬Names text threshold := by
  simp only [Option.eq_none_iff_forall_ne_some, ne_eq, ofText?_eq_some_iff]

namespace Names

theorem equals_notMem (hnames : Names text threshold) : '=' ∉ text := by
  intro hmem
  cases hnames with
  | word hword => exact absurd (isLower_of_foldCase hword hmem (by decide)) (by decide)
  | number hnumber _ =>
      obtain ⟨digits, _, hall, htext⟩ := exists_digits_of_numeral? hnumber
      have hdigit : '=' ∈ digits := by rcases htext with rfl | rfl <;> simpa using hmem
      exact absurd (hall _ hdigit) (by decide)

theorem ne_nil (hnames : Names text threshold) : text ≠ [] := by
  rintro rfl
  cases hnames with
  | word hword => exact threshold.toList_word_ne_nil (toList_word hword)
  | number hnumber _ => cases hnumber

end Names

end Threshold

namespace Directive

/-- A part spells the threshold of every target, or that of one target.  A target on its own shows
everything, as does one without a level behind its equals sign. -/
inductive Spells : List Char → Directive → Prop where
  | level {word : List Char} {threshold : Threshold} (hlevel : threshold.Names word) :
      Spells word ⟨[], threshold⟩
  | target {word : List Char} (hequals : '=' ∉ word) (hword : ∀ threshold : Threshold,
      ¬threshold.Names word) : Spells word ⟨word, some .trace⟩
  | unlimited {target : List Char} (hequals : '=' ∉ target)
      (hhead : target.head?.any CharClass.isSpace = false) :
      Spells (target ++ ['=']) ⟨target, some .trace⟩
  | pair {target level : List Char} {threshold : Threshold} (hequals : '=' ∉ target)
      (hhead : target.head?.any CharClass.isSpace = false) (hlevel : threshold.Names level) :
      Spells (target ++ '=' :: level) ⟨target, threshold⟩

theorem ofPair?_eq_some_iff {target level : List Char} :
    ofPair? target level = some directive ↔ target.head?.any CharClass.isSpace = false ∧
      (level = [] ∧ directive = ⟨target, some .trace⟩ ∨
        ∃ threshold : Threshold, threshold.Names level ∧ directive = ⟨target, threshold⟩) := by
  by_cases hhead : target.head?.any CharClass.isSpace = true
  · simp [ofPair?, hhead]
  · by_cases hlevel : level = []
    · have hnone : ∀ threshold : Threshold, ¬threshold.Names [] := fun _ hnames => hnames.ne_nil rfl
      simp [ofPair?, hhead, hlevel, hnone, eq_comm]
    · simp [ofPair?, hhead, hlevel, Threshold.ofText?_eq_some_iff, @eq_comm _ directive]

/-- A part is read as the directive that it spells. -/
theorem Spells.read (hspells : Spells part directive) :
    (match cut '=' part with
      | (word, none) => some (ofWord word)
      | (before, some after) => ofPair? before after) = some directive := by
  cases hspells with
  | level hlevel =>
      simp only [cut_of_notMem hlevel.equals_notMem, ofWord,
        Threshold.ofText?_eq_some_iff.2 hlevel]
  | target hequals hword =>
      simp only [cut_of_notMem hequals, ofWord, Threshold.ofText?_eq_none_iff.2 hword]
  | unlimited hequals hhead =>
      simp only [cut_append_cons hequals]
      exact ofPair?_eq_some_iff.2 ⟨hhead, .inl ⟨rfl, rfl⟩⟩
  | pair hequals hhead hlevel =>
      simp only [cut_append_cons hequals]
      exact ofPair?_eq_some_iff.2 ⟨hhead, .inr ⟨_, hlevel, rfl⟩⟩

example : ["Warn", "3", "6", "front=off", "front=", " front", " front=off", "a=b=c", "="].map
    (fun part => ofPart? part.toList) =
      [some ⟨[], some .warn⟩, some ⟨[], some .info⟩, some ⟨"6".toList, some .trace⟩,
        some ⟨"front".toList, none⟩, some ⟨"front".toList, some .trace⟩,
        some ⟨" front".toList, some .trace⟩, none, none, none] := by
  decide +kernel

end Directive

end CompilerDriver.Log
