/-!
Comparing words without regard to the case of their letters, where letters are the ASCII ones.
-/

namespace CompilerDriver

/-- A text with its ASCII capitals made small. -/
def foldCase (text : String) : String :=
  text.map Char.toLower

/-- A digit is no letter, so it stays as it is when letters are made small. -/
theorem toLower_eq_of_isDigit {c : Char} (hdigit : c.isDigit = true) : c.toLower = c := by
  have hle : c.val ≤ '9'.val := of_decide_eq_true (Bool.and_eq_true_iff.mp hdigit).2
  refine dif_neg ?_
  rintro ⟨hge, _⟩
  exact absurd (UInt32.le_trans hge hle) (by decide)

theorem not_isLower_of_isDigit {c : Char} (hdigit : c.isDigit = true) : ¬c.isLower = true := by
  have hle : c.val ≤ '9'.val := of_decide_eq_true (Bool.and_eq_true_iff.mp hdigit).2
  intro hlower
  have hge : 'a'.val ≤ c.val := of_decide_eq_true (Bool.and_eq_true_iff.mp hlower).1
  exact absurd (UInt32.le_trans hge hle) (by decide)

end CompilerDriver
