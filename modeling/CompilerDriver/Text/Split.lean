/-!
Splitting a list at a separator.  There is one piece more than there are separators
(`length_split`), no piece holds one, and joining the pieces again gives the list back
(`join_split`), as splitting gives back what was joined (`split_join`).  The pieces of two lists
with a separator between them are those of the one and then those of the other
(`split_append_separator`).  Cutting a list splits it at the first separator alone
(`cut_append_cons`).
-/

namespace CompilerDriver

variable {α : Type} [DecidableEq α]

/-- The pieces of a list between its separators, empty ones included. -/
def split (separator : α) : List α → List (List α)
  | [] => [[]]
  | a :: rest =>
    if a = separator then [] :: split separator rest
    else
      match split separator rest with
      | [] => [[a]]
      | piece :: pieces => (a :: piece) :: pieces

/-- What stands before the first separator, and what stands after it if there is one. -/
def cut (separator : α) (text : List α) : List α × Option (List α) :=
  match text.dropWhile (· ≠ separator) with
  | [] => (text, none)
  | _ :: rest => (text.takeWhile (· ≠ separator), some rest)

/-- The pieces with one separator between each two. -/
def join (separator : α) : List (List α) → List α
  | [] => []
  | [piece] => piece
  | piece :: pieces => piece ++ separator :: join separator pieces

omit [DecidableEq α] in
theorem join_cons_of_ne_nil (separator : α) (piece : List α) {pieces : List (List α)}
    (h : pieces ≠ []) :
    join separator (piece :: pieces) = piece ++ separator :: join separator pieces := by
  cases pieces with
  | nil => exact absurd rfl h
  | cons => rfl

omit [DecidableEq α] in
/-- Pieces are joined in front of other pieces as they are on their own. -/
theorem join_append (separator : α) {left right : List (List α)} (hleft : left ≠ [])
    (hright : right ≠ []) :
    join separator (left ++ right) = join separator left ++ separator :: join separator right := by
  induction left with
  | nil => exact absurd rfl hleft
  | cons piece rest ih =>
      by_cases hrest : rest = []
      · simp [hrest, join, join_cons_of_ne_nil separator piece hright]
      · have hmore : rest ++ right ≠ [] := List.append_ne_nil_of_left_ne_nil hrest right
        rw [List.cons_append, join_cons_of_ne_nil _ _ hmore, join_cons_of_ne_nil _ _ hrest, ih hrest]
        simp

theorem split_ne_nil (separator : α) (text : List α) : split separator text ≠ [] := by
  cases text with
  | nil => exact List.cons_ne_nil _ _
  | cons a rest =>
    rw [split]
    split
    · exact List.cons_ne_nil _ _
    · split <;> exact List.cons_ne_nil _ _

theorem separator_notMem_of_mem_split {separator : α} {text piece : List α}
    (h : piece ∈ split separator text) : separator ∉ piece := by
  induction text generalizing piece with
  | nil =>
    rw [split, List.mem_singleton] at h
    exact h ▸ List.not_mem_nil
  | cons a rest ih =>
    rw [split] at h
    split at h
    · rcases List.mem_cons.1 h with rfl | later
      · exact List.not_mem_nil
      · exact ih later
    · rename_i other
      split at h
      · rename_i empty
        exact absurd empty (split_ne_nil _ _)
      · rename_i first pieces same
        rw [same] at ih
        rcases List.mem_cons.1 h with rfl | later
        · rw [List.mem_cons, not_or]
          exact ⟨fun same => other same.symm, ih List.mem_cons_self⟩
        · exact ih (List.mem_cons_of_mem _ later)

/-- Splitting loses nothing. -/
@[simp] theorem join_split (separator : α) (text : List α) :
    join separator (split separator text) = text := by
  induction text with
  | nil => rfl
  | cons a rest ih =>
    rw [split]
    split
    · rename_i same
      rw [join_cons_of_ne_nil _ _ (split_ne_nil _ _), ih, same, List.nil_append]
    · split
      · rename_i empty
        exact absurd empty (split_ne_nil _ _)
      · rename_i piece pieces same
        rw [same] at ih
        cases pieces with
        | nil => rw [← ih]; rfl
        | cons next more =>
          rw [join_cons_of_ne_nil _ _ (List.cons_ne_nil _ _)] at ih ⊢
          rw [List.cons_append, ih]

/-- A list is split at a separator by splitting what stands before and after it. -/
theorem split_append_separator (separator : α) (left right : List α) :
    split separator (left ++ separator :: right) =
      split separator left ++ split separator right := by
  induction left with
  | nil => simp [split]
  | cons a left ih =>
    rw [List.cons_append, split, split, ih]
    by_cases same : a = separator
    · rw [if_pos same, if_pos same, List.cons_append]
    · rw [if_neg same, if_neg same]
      cases pieces : split separator left with
      | nil => exact absurd pieces (split_ne_nil _ _)
      | cons piece more => rfl

theorem split_of_notMem {separator : α} {text : List α} (h : separator ∉ text) :
    split separator text = [text] := by
  induction text with
  | nil => rfl
  | cons a text ih =>
    rw [List.mem_cons, not_or] at h
    rw [split, if_neg (Ne.symm h.1), ih h.2]

/-- The first piece of a list stands before its first separator. -/
theorem split_append_cons {separator : α} {piece : List α} (h : separator ∉ piece)
    (rest : List α) :
    split separator (piece ++ separator :: rest) = piece :: split separator rest := by
  rw [split_append_separator, split_of_notMem h, List.singleton_append]

theorem length_split (separator : α) (text : List α) :
    (split separator text).length = text.count separator + 1 := by
  induction text with
  | nil => rfl
  | cons a rest ih =>
    rw [split]
    split
    · rename_i same
      rw [List.length_cons, ih, same, List.count_cons_self]
    · rename_i other
      rw [List.count_cons_of_ne other, ← ih]
      split
      · rename_i empty
        exact absurd empty (split_ne_nil _ _)
      · rename_i same
        rw [same, List.length_cons, List.length_cons]

/-- Terminated pieces are what a list is split into, behind them an empty piece, exactly when no
piece holds a separator. -/
theorem split_flatMap_terminated_iff {separator : α} {pieces : List (List α)} :
    split separator (pieces.flatMap (· ++ [separator])) = pieces ++ [[]] ↔
      ∀ piece ∈ pieces, separator ∉ piece := by
  constructor
  · intro h piece member
    have inSplit : piece ∈ split separator (pieces.flatMap (· ++ [separator])) := by
      rw [h]
      exact List.mem_append_left _ member
    exact separator_notMem_of_mem_split inSplit
  · intro h
    induction pieces with
    | nil => rfl
    | cons piece pieces ih =>
      rw [List.forall_mem_cons] at h
      rw [List.flatMap_cons, List.append_assoc, List.singleton_append, split_append_cons h.1,
        ih h.2, List.cons_append]

theorem count_flatMap_terminated (separator : α) (pieces : List (List α)) :
    (pieces.flatMap (· ++ [separator])).count separator =
      pieces.flatten.count separator + pieces.length := by
  induction pieces with
  | nil => rfl
  | cons piece pieces ih =>
    rw [List.flatMap_cons, List.count_append, List.count_append, List.count_singleton_self, ih,
      List.flatten_cons, List.count_append, List.length_cons]
    omega

private theorem takeWhile_ne_append {separator : α} {before : List α} (h : separator ∉ before)
    (after : List α) :
    (before ++ after).takeWhile (· ≠ separator) =
      before ++ after.takeWhile (· ≠ separator) := by
  apply List.takeWhile_append_of_pos
  intro a member
  exact decide_eq_true fun same => h (same ▸ member)

private theorem dropWhile_ne_append {separator : α} {before : List α} (h : separator ∉ before)
    (after : List α) :
    (before ++ after).dropWhile (· ≠ separator) = after.dropWhile (· ≠ separator) := by
  apply List.dropWhile_append_of_pos
  intro a member
  exact decide_eq_true fun same => h (same ▸ member)

/-- A list without separators is not cut. -/
theorem cut_of_notMem {separator : α} {text : List α} (h : separator ∉ text) :
    cut separator text = (text, none) := by
  have rest := dropWhile_ne_append h []
  rw [List.append_nil] at rest
  rw [cut, rest, List.dropWhile_nil]

/-- A list is cut at its first separator. -/
theorem cut_append_cons {separator : α} {before : List α} (h : separator ∉ before)
    (after : List α) : cut separator (before ++ separator :: after) = (before, some after) := by
  rw [cut, takeWhile_ne_append h, dropWhile_ne_append h]
  simp

theorem separator_notMem_cut (separator : α) (text : List α) :
    separator ∉ (cut separator text).1 := by
  have htaken : separator ∉ text.takeWhile (· ≠ separator) := by
    intro hmem
    exact of_decide_eq_true (List.all_eq_true.1 List.all_takeWhile separator hmem) rfl
  unfold cut
  split
  · rename_i hdrop
    have htext := List.takeWhile_append_dropWhile (p := (· ≠ separator)) (l := text)
    rw [hdrop, List.append_nil] at htext
    rwa [htext] at htaken
  · exact htaken

/-- A list that was not cut stands whole before the cut. -/
theorem eq_of_cut_eq_none {separator : α} {text before : List α}
    (hcut : cut separator text = (before, none)) : text = before := by
  unfold cut at hcut
  split at hcut
  · exact congrArg Prod.fst hcut
  · cases hcut

/-- A cut loses the separator alone. -/
theorem eq_of_cut_eq_some {separator : α} {text before after : List α}
    (hcut : cut separator text = (before, some after)) :
    text = before ++ separator :: after := by
  unfold cut at hcut
  split at hcut
  · cases hcut
  · rename_i first rest hdrop
    cases hcut
    have hfirst : first = separator := by
      have hhead := List.head?_dropWhile_not (· ≠ separator) text
      rw [hdrop] at hhead
      simpa using hhead
    rw [← hfirst, ← hdrop, hfirst, List.takeWhile_append_dropWhile]

end CompilerDriver
