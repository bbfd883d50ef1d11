import Mathlib.Data.List.Forall2

/-!
Writing that shows where it ends.  Two keys are delimited by how they are written when no list
begins with the one and with the other as well, unless they are the same; so each can be told from
the other whatever stands behind it.  Keys that are delimited one by one can be read back from the
list that they are joined to (`eq_of_intercalate_append_eq`).
-/

namespace CompilerDriver

variable {α κ : Type} {text : κ → List α} {key other : κ} {first second : List α}

/-- Two keys that are the same as soon as one list can begin with both. -/
def Delimited (text : κ → List α) (key other : κ) : Prop :=
  ∀ first second, text key ++ first = text other ++ second → key = other

theorem Delimited.eq (hdelimited : Delimited text key other) (hsame : text key = text other) :
    key = other :=
  hdelimited [] [] (congrArg (· ++ []) hsame)

theorem Delimited.eq_and_eq (hdelimited : Delimited text key other)
    (hsame : text key ++ first = text other ++ second) : key = other ∧ first = second := by
  have heq := hdelimited first second hsame
  rw [heq] at hsame
  exact ⟨heq, List.append_cancel_left hsame⟩

/-- What delimited keys are written as is delimited itself. -/
theorem Delimited.toList {text : κ → String}
    (hdelimited : Delimited (fun key => (text key).toList) key other) :
    Delimited String.toList (text key) (text other) :=
  fun first second hsame => congrArg text (hdelimited first second hsame)

/-- Keys are delimited when the text of neither begins with the text of the other. -/
theorem delimited_of_prefix_imp (hleft : text key <+: text other → key = other)
    (hright : text other <+: text key → key = other) : Delimited text key other := by
  intro first second hsame
  have hkey : text key <+: text other ++ second := hsame ▸ List.prefix_append _ _
  obtain hbegins | hbegins := List.prefix_or_prefix_of_prefix hkey (List.prefix_append _ _)
  · exact hleft hbegins
  · exact hright hbegins

theorem delimited_of_isPrefixOf [BEq α] [LawfulBEq α]
    (hdistinct : ∀ key other, (text key).isPrefixOf (text other) = true → key = other)
    (key other : κ) : Delimited text key other := by
  apply delimited_of_prefix_imp
  · intro hbegins
    exact hdistinct key other (List.isPrefixOf_iff_prefix.2 hbegins)
  · intro hbegins
    exact (hdistinct other key (List.isPrefixOf_iff_prefix.2 hbegins)).symm

/-- Delimited keys are read back from their joined texts. -/
theorem eq_of_intercalate_append_eq {separator : List α} {keys others : List κ}
    (hkeys : List.Forall₂ (Delimited text) keys others)
    (hsame : separator.intercalate (keys.map text) ++ first =
      separator.intercalate (others.map text) ++ second) : keys = others := by
  induction hkeys with
  | nil => rfl
  | @cons key other keys others hkey hrest ih =>
      cases hrest with
      | nil =>
          simp only [List.map_cons, List.map_nil, List.intercalate_singleton] at hsame
          rw [hkey _ _ hsame]
      | cons =>
          simp only [List.map_cons, List.intercalate_cons_cons, List.append_assoc] at hsame ih
          obtain ⟨heq, hmore⟩ := hkey.eq_and_eq hsame
          rw [heq, ih (List.append_cancel_left hmore)]

end CompilerDriver
