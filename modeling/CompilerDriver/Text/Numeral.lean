/-!
Decimal numerals: at least one ASCII digit, with a plus sign in front or none.
-/

namespace CompilerDriver

/-- The number that decimal digits write, the most significant first. -/
def ofDigits (digits : List Char) : Nat :=
  digits.foldl (fun number c => 10 * number + (c.toNat - '0'.toNat)) 0

/-- A numeral without the plus sign in front. -/
def unsigned : List Char → List Char
  | '+' :: digits => digits
  | text => text

/-- The number that a text writes, when it is a numeral. -/
def numeral? (text : List Char) : Option Nat :=
  let digits := unsigned text
  if digits ≠ [] ∧ digits.all Char.isDigit then some (ofDigits digits) else none

/-- A numeral consists of digits, with a plus sign in front or none. -/
theorem exists_digits_of_numeral? {text : List Char} {number : Nat}
    (hnumber : numeral? text = some number) :
    ∃ digits : List Char, digits ≠ [] ∧ (∀ c ∈ digits, c.isDigit = true) ∧
      (text = digits ∨ text = '+' :: digits) := by
  simp only [numeral?, Option.ite_none_right_eq_some] at hnumber
  obtain ⟨⟨hdigits, hall⟩, _⟩ := hnumber
  refine ⟨unsigned text, hdigits, List.all_eq_true.1 hall, ?_⟩
  fun_cases unsigned text with
  | case1 digits => exact .inr rfl
  | case2 => exact .inl rfl

end CompilerDriver
