import CompilerDriver.CommandLine.Message
import CompilerDriver.Proofs.Text.Every

/-!
Plain text around the words of a user.  Plain pieces of a text for a terminal are kept as they are,
and a user's word between them is stripped by itself: what it leaves open does not reach the text
behind it (`strip_userWord_append`).  Both leave the reader between sequences, and so does every
text that is put together from them (`Closed.append`).
-/

namespace CompilerDriver

/-- A text that begins with another one. -/
def BeginsWith (beginning text : String) : Prop :=
  ∃ rest, text = beginning ++ rest

theorem BeginsWith.append {beginning text : String} (hbegins : BeginsWith beginning text)
    (more : String) : BeginsWith beginning (text ++ more) := by
  obtain ⟨rest, rfl⟩ := hbegins
  exact ⟨rest ++ more, String.append_assoc⟩

namespace Terminal

/-- An ASCII control character. -/
def IsControl (c : Char) : Prop :=
  c < ' ' ∨ c = '\x7f'

instance (c : Char) : Decidable (IsControl c) :=
  inferInstanceAs (Decidable (_ ∨ _))

/-- A text of shown characters alone. -/
def Plain (text : String) : Prop :=
  ∀ c ∈ text.toList, isShown c = true

instance (text : String) : Decidable (Plain text) :=
  List.decidableBAll _ _

variable {text left right : String}

theorem isShown_of_not_isControl {c : Char} (hc : ¬IsControl c) : isShown c = true := by
  rw [IsControl, not_or, Char.not_lt] at hc
  simp [isShown, hc]

theorem plain_of_not_isControl (htext : ∀ c ∈ text.toList, ¬IsControl c) : Plain text :=
  fun c hc => isShown_of_not_isControl (htext c hc)

theorem Plain.append (hleft : Plain left) (hright : Plain right) : Plain (left ++ right) :=
  Every.append hleft hright

theorem plain_join {texts : List String} (htexts : ∀ text ∈ texts, Plain text) :
    Plain (String.join texts) :=
  every_join htexts

theorem plain_intercalate {separator : String} {texts : List String} (hseparator : Plain separator)
    (htexts : ∀ text ∈ texts, Plain text) : Plain (separator.intercalate texts) :=
  every_intercalate hseparator htexts

theorem strip_of_plain (hplain : Plain text) : strip text = text :=
  strip_of_forall_isShown hplain

theorem escape_notMem_of_plain (hplain : Plain text) : '\x1b' ∉ text.toList := by
  intro hescape
  cases hplain _ hescape

/-- A text that leaves the reader between sequences. -/
def Closed (text : String) : Prop :=
  modeAfter .ground text.toList = .ground

theorem Plain.closed (hplain : Plain text) : Closed text :=
  modeAfter_ground_of_forall_isShown hplain

/-- Whatever a user's word leaves open is ended behind it. -/
theorem closed_userWord (word : String) : Closed (userWord word) := by
  unfold Closed userWord
  rw [String.toList_append]
  exact modeAfter_append_reset _ _

theorem Closed.append (hleft : Closed left) (hright : Closed right) : Closed (left ++ right) := by
  unfold Closed at *
  rw [String.toList_append, modeAfter_append, hleft, hright]

/-- What stands behind a closed text is stripped by itself. -/
theorem strip_append_of_closed (hleft : Closed left) (right : String) :
    strip (left ++ right) = strip left ++ strip right := by
  unfold Closed at hleft
  unfold strip
  rw [String.toList_append, stripFrom_append, hleft, String.ofList_append]

/-- Plain text is kept, and the reader goes on behind it. -/
theorem strip_append_of_plain (hplain : Plain left) (right : String) :
    strip (left ++ right) = left ++ strip right := by
  rw [strip_append_of_closed hplain.closed, strip_of_plain hplain]

@[simp] theorem strip_userWord (word : String) : strip (userWord word) = strip word := by
  unfold strip userWord
  rw [String.toList_append, stripFrom_append, stripFrom_reset, List.append_nil]

/-- A user's word is stripped by itself, whatever comes behind it. -/
theorem strip_userWord_append (word rest : String) :
    strip (userWord word ++ rest) = strip word ++ strip rest := by
  rw [strip_append_of_closed (closed_userWord word), strip_userWord]

/-- A plain word of a user is shown between the pieces around it. -/
theorem beginsWith_strip {word rest : String} (hleft : Plain left) (hword : Plain word)
    (hright : Plain right) :
    BeginsWith (left ++ word ++ right) (strip (left ++ (userWord word ++ (right ++ rest)))) := by
  rw [strip_append_of_plain hleft, strip_userWord_append, strip_of_plain hword,
    strip_append_of_plain hright]
  exact ⟨strip rest, by simp only [String.append_assoc]⟩

end Terminal

end CompilerDriver
