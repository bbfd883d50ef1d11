import CompilerDriver.Path

/-!
The components of a path that is put together from others.  Apart from what a path begins with, its
components are those of its pieces between slashes (`list_eq_lead_append_inner`), and these of two
paths with a slash between them are those of the one and then those of the other.  So a file name is
not changed by slashes behind it, nor by a directory in front of it.
-/

namespace CompilerDriver.Component

open PathAlphabet

variable {α : Type} [DecidableEq α] [PathAlphabet α]

/-- The component that only the beginning of a path can give. -/
def lead? (path : List α) : Option (Component α) :=
  if path.head? = some slash then some .root
  else if (split slash path).head? = some [dot] then some .current
  else none

/-- The components that the pieces of a path give wherever they stand. -/
def inner (path : List α) : List (Component α) :=
  (split slash path).filterMap ofPiece?

theorem ofPiece?_nil : ofPiece? ([] : List α) = none :=
  if_pos (Or.inl rfl)

theorem list_eq_lead_append_inner (path : List α) :
    list path = (lead? path).toList ++ inner path := by
  cases path with
  | nil => simp [list, lead?, inner, split, ofPiece?_nil]
  | cons a rest =>
      by_cases hroot : a = slash
      · simp [list, lead?, inner, split, ofPiece?_nil, hroot]
      · cases hpieces : split slash (a :: rest) with
        | nil => exact absurd hpieces (split_ne_nil _ _)
        | cons first more =>
            by_cases hcurrent : first = [dot]
            · have hnone : ofPiece? first = none := if_pos (Or.inr hcurrent)
              simp [list, lead?, inner, hroot, hpieces, hcurrent, ofFirst?, hcurrent ▸ hnone]
            · simp only [list, lead?, inner, hroot, hpieces, ofFirst?, hcurrent]
              cases hfirst : ofPiece? first <;> simp [hroot, hcurrent, hfirst]

@[simp] theorem inner_nil : inner ([] : List α) = [] := by
  simp [inner, split, ofPiece?_nil]

@[simp] theorem inner_append_slash_cons (directory path : List α) :
    inner (directory ++ slash :: path) = inner directory ++ inner path := by
  rw [inner, split_append_separator, List.filterMap_append]
  rfl

theorem lead?_ne_name (path name : List α) : lead? path ≠ some (.name name) := by
  unfold lead?
  split
  · exact nofun
  · split <;> exact nofun

/-- A path has a file name when the last of its pieces that counts is a name. -/
theorem fileName?_eq_some_iff {path name : List α} :
    fileName? path = some name ↔ (inner path).getLast? = some (.name name) := by
  rw [fileName?, list_eq_lead_append_inner, List.getLast?_append]
  cases hlast : (inner path).getLast? with
  | some component => cases component <;> simp
  | none =>
      cases hlead : lead? path with
      | none => simp
      | some component =>
          cases component with
          | name piece => exact absurd hlead (lead?_ne_name path piece)
          | root | current | parent => simp

/-- Slashes behind a path do not change its file name. -/
theorem fileName?_append_slash (path : List α) : fileName? (path ++ [slash]) = fileName? path := by
  apply Option.ext
  intro name
  rw [fileName?_eq_some_iff, fileName?_eq_some_iff, inner_append_slash_cons, inner_nil,
    List.append_nil]

/-- A directory in front of a path with a file name does not change that name. -/
theorem fileName?_append_slash_cons {path name : List α} (hname : fileName? path = some name)
    (directory : List α) : fileName? (directory ++ slash :: path) = some name := by
  rw [fileName?_eq_some_iff] at hname ⊢
  rw [inner_append_slash_cons, List.getLast?_append, hname, Option.some_or]

end CompilerDriver.Component
