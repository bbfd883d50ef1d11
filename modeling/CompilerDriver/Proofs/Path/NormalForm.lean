import Mathlib.Data.List.Basic
import Mathlib.Logic.Relation
import Mathlib.Tactic.ByContra
import CompilerDriver.Proofs.Path.FileName

/-!
Normal forms of paths.  A path text is shortened by dropping a slash beside another one, an inner
or final `.` piece, or the slash at its end; none of this changes its components
(`list_eq_of_shortens`).  A text that cannot be shortened is normal, and it can be written back from
its components (`write_list`).  So every path has exactly one normal form, and two paths have the
same components exactly when they have the same one (`equivalent_iff_normalForm`).
-/

namespace CompilerDriver

namespace Component

open PathAlphabet

variable {α : Type} [DecidableEq α] [PathAlphabet α]

/-- What a path begins with is decided before its second slash. -/
theorem lead?_append_slash_cons (directory path : List α) :
    lead? (directory ++ slash :: path) = lead? (directory ++ [slash]) := by
  have hhead : (directory ++ slash :: path).head? = (directory ++ [slash]).head? := by
    cases directory <;> rfl
  unfold lead?
  rw [hhead, split_append_separator, split_append_separator]
  simp only [List.head?_append_of_ne_nil _ (split_ne_nil _ _)]

theorem lead?_append_slash {path : List α} (hpath : path ≠ []) :
    lead? (path ++ [slash]) = lead? path := by
  unfold lead?
  rw [split_append_separator]
  simp only [List.head?_append_of_ne_nil _ hpath, List.head?_append_of_ne_nil _ (split_ne_nil _ _)]

@[simp] theorem inner_dot : inner [(dot : α)] = [] := by
  by_cases hdot : (dot : α) = slash
  · simp [inner, split, hdot, ofPiece?_nil]
  · simp [inner, split, hdot, ofPiece?]

theorem list_append_slash_cons (directory path : List α) :
    list (directory ++ slash :: path) =
      (lead? (directory ++ [slash])).toList ++ (inner directory ++ inner path) := by
  rw [list_eq_lead_append_inner, lead?_append_slash_cons, inner_append_slash_cons]

/-- A component as a piece between slashes; the root stands in front of the first one. -/
def spelling : Component α → List α
  | .root => []
  | .current => [dot]
  | .parent => [dot, dot]
  | .name piece => piece

theorem spelling_of_ofPiece? {piece : List α} {component : Component α}
    (hpiece : ofPiece? piece = some component) : component.spelling = piece := by
  unfold ofPiece? at hpiece
  split at hpiece
  · simp at hpiece
  · split at hpiece
    · rename_i hparent
      obtain rfl := Option.some.inj hpiece
      exact hparent.symm
    · obtain rfl := Option.some.inj hpiece
      rfl

theorem exists_ofPiece? {piece : List α} (hempty : piece ≠ []) (hdot : piece ≠ [dot]) :
    ∃ component, ofPiece? piece = some component := by
  by_cases hparent : piece = [dot, dot] <;> simp [ofPiece?, hempty, hdot, hparent]

theorem map_spelling_filterMap {pieces : List (List α)}
    (hpieces : ∀ piece ∈ pieces, piece ≠ [] ∧ piece ≠ [dot]) :
    (pieces.filterMap ofPiece?).map spelling = pieces := by
  induction pieces with
  | nil => rfl
  | cons piece rest ih =>
      rw [List.forall_mem_cons] at hpieces
      obtain ⟨component, hpiece⟩ := exists_ofPiece? hpieces.1.1 hpieces.1.2
      simp [hpiece, spelling_of_ofPiece? hpiece, ih hpieces.2]

theorem map_spelling_ofFirst? {piece : List α} (hempty : piece ≠ []) :
    (ofFirst? piece).toList.map spelling = [piece] := by
  by_cases hdot : piece = [dot]
  · simp [ofFirst?, hdot, spelling]
  · obtain ⟨component, hpiece⟩ := exists_ofPiece? hempty hdot
    simp [ofFirst?, hdot, hpiece, spelling_of_ofPiece? hpiece]

/-- The shortest text of components. -/
def write (components : List (Component α)) : List α :=
  if components = [.root] then [slash] else join slash (components.map spelling)

end Component

namespace PathText

open PathAlphabet

variable {α : Type} [PathAlphabet α]

/-- A text is shortened by dropping what does not name anything. -/
inductive Shortens : List α → List α → Prop where
  /-- One of two slashes. -/
  | doubled (before after : List α) :
      Shortens (before ++ slash :: slash :: after) (before ++ slash :: after)
  /-- A `.` between slashes. -/
  | inner (before after : List α) :
      Shortens (before ++ slash :: dot :: slash :: after) (before ++ slash :: after)
  /-- A `.` at the end. -/
  | last (before : List α) : Shortens (before ++ [slash, dot]) (before ++ [slash])
  /-- A slash at the end, unless it is the whole text. -/
  | trailing {before : List α} (nonempty : before ≠ []) : Shortens (before ++ [slash]) before

/-- A text is spelled out in longer ways of naming the same. -/
inductive Respells : List α → List α → Prop where
  | double (before after : List α) :
      Respells (before ++ slash :: after) (before ++ slash :: slash :: after)
  | insertDot (before after : List α) :
      Respells (before ++ slash :: after) (before ++ slash :: dot :: slash :: after)
  | appendSlash {text : List α} (nonempty : text ≠ []) : Respells text (text ++ [slash])
  | appendDot {text : List α} (nonempty : text ≠ []) : Respells text (text ++ [slash, dot])

variable [DecidableEq α] {text shorter left right : List α}

/-- A text is normal when no slash stands beside another, none ends it unless it is the whole text,
and no piece behind a slash is `.`. -/
structure Normal (text : List α) : Prop where
  single : ∀ before after, text ≠ before ++ slash :: slash :: after
  unterminated : ∀ before, before ≠ [] → text ≠ before ++ [slash]
  dotless : [dot] ∉ (split slash text).tail

/-- A normal form of a text is a normal text to which it can be shortened. -/
def NormalForm (text form : List α) : Prop :=
  Normal form ∧ Relation.ReflTransGen Shortens text form

theorem list_eq_of_shortens (hshortens : Shortens text shorter) :
    Component.list text = Component.list shorter := by
  cases hshortens with
  | doubled before after =>
      have hempty := Component.inner_append_slash_cons [] after
      rw [List.nil_append] at hempty
      simp [Component.list_append_slash_cons, hempty]
  | inner before after =>
      have hdot := Component.inner_append_slash_cons [dot] after
      rw [List.singleton_append] at hdot
      simp [Component.list_append_slash_cons, hdot]
  | last before => simp [Component.list_append_slash_cons]
  | trailing hnonempty =>
      rw [Component.list_append_slash_cons, Component.lead?_append_slash hnonempty,
        Component.inner_nil, List.append_nil, Component.list_eq_lead_append_inner]

theorem list_eq_of_respells (hrespells : Respells left right) :
    Component.list left = Component.list right := by
  cases hrespells with
  | double before after => exact (list_eq_of_shortens (.doubled before after)).symm
  | insertDot before after => exact (list_eq_of_shortens (.inner before after)).symm
  | appendSlash hnonempty => exact (list_eq_of_shortens (.trailing hnonempty)).symm
  | appendDot hnonempty =>
      have hlast := list_eq_of_shortens (.last left)
      exact (hlast.trans (list_eq_of_shortens (.trailing hnonempty))).symm

theorem list_eq_of_normalForm {form : List α} (hform : NormalForm text form) :
    Component.list text = Component.list form := by
  have hshortens := hform.2
  clear hform
  induction hshortens with
  | refl => rfl
  | tail _ hlast ih => exact ih.trans (list_eq_of_shortens hlast)

omit [DecidableEq α] in
theorem length_lt_of_shortens (hshortens : Shortens text shorter) :
    shorter.length < text.length := by
  cases hshortens <;> simp

/-- Behind the first slash a piece reaches to the end of the text or to the next slash. -/
theorem eq_of_mem_tail_split {piece : List α} (hpiece : piece ∈ (split slash text).tail) :
    ∃ before, text = before ++ slash :: piece ∨
      ∃ after, text = before ++ slash :: (piece ++ slash :: after) := by
  have htext := join_split slash text
  cases hpieces : split slash text with
  | nil => exact absurd hpieces (split_ne_nil _ _)
  | cons first rest =>
      rw [hpieces, List.tail_cons] at hpiece
      obtain ⟨early, late, rfl⟩ := List.append_of_mem hpiece
      have hearly : first :: early ≠ [] := by simp
      rw [hpieces, ← List.cons_append, join_append _ hearly (by simp)] at htext
      refine ⟨join slash (first :: early), ?_⟩
      by_cases hlate : late = []
      · exact Or.inl (by rw [← htext, hlate, join])
      · exact Or.inr ⟨join slash late, by rw [← htext, join_cons_of_ne_nil _ _ hlate]⟩

/-- A text that is not normal can be shortened. -/
theorem exists_shortens (hnormal : ¬Normal text) : ∃ shorter, Shortens text shorter := by
  by_contra hnone
  rw [not_exists] at hnone
  apply hnormal
  constructor
  · rintro before after rfl
    exact hnone _ (.doubled before after)
  · rintro before hnonempty rfl
    exact hnone _ (.trailing hnonempty)
  · intro hdot
    obtain ⟨before, rfl | ⟨after, rfl⟩⟩ := eq_of_mem_tail_split hdot
    · exact hnone _ (.last before)
    · exact hnone _ (.inner before after)

theorem exists_normalForm (text : List α) : ∃ form, NormalForm text form := by
  induction hlength : text.length using Nat.strongRecOn generalizing text with
  | ind length ih =>
      by_cases hnormal : Normal text
      · exact ⟨text, hnormal, .refl⟩
      · obtain ⟨shorter, hshortens⟩ := exists_shortens hnormal
        have hshorter : shorter.length < length := hlength ▸ length_lt_of_shortens hshortens
        obtain ⟨form, hform, hrest⟩ := ih _ hshorter shorter rfl
        exact ⟨form, hform, hrest.head hshortens⟩

/-- Behind the first slash of a normal text, every piece is a component. -/
theorem Normal.pieces (hnormal : Normal text) (hroot : text ≠ [slash]) :
    ∀ piece ∈ (split slash text).tail, piece ≠ [] ∧ piece ≠ [dot] := by
  intro piece hpiece
  constructor
  · rintro rfl
    obtain ⟨before, htext | ⟨after, htext⟩⟩ := eq_of_mem_tail_split hpiece
    · by_cases hbefore : before = []
      · exact hroot (by simpa [hbefore] using htext)
      · exact hnormal.unterminated before hbefore htext
    · exact hnormal.single before after htext
  · rintro rfl
    exact hnormal.dotless hpiece

theorem Normal.join_spelling_list (hnormal : Normal text) (hroot : text ≠ [slash]) :
    join slash ((Component.list text).map Component.spelling) = text := by
  have hpieces := hnormal.pieces hroot
  have htext := join_split slash text
  cases text with
  | nil => rfl
  | cons a rest =>
      by_cases ha : a = slash
      · have hsplit : split slash (a :: rest) = [] :: split slash rest := by rw [split, if_pos ha]
        rw [hsplit] at hpieces htext
        have hrest := Component.map_spelling_filterMap hpieces
        simp only [List.tail_cons] at hrest
        simpa [Component.list, ha, Component.spelling, hrest] using htext
      · obtain ⟨piece, more, hsplit⟩ : ∃ piece more, split slash (a :: rest) = (a :: piece) :: more := by
          cases hrest : split slash rest with
          | nil => exact absurd hrest (split_ne_nil _ _)
          | cons piece more => exact ⟨piece, more, by simp [split, ha, hrest]⟩
        rw [hsplit] at hpieces htext
        have hmore := Component.map_spelling_filterMap hpieces
        simp only [List.tail_cons] at hmore
        simpa [Component.list, ha, hsplit, Component.map_spelling_ofFirst?, hmore] using htext

/-- A normal text is written back from its components. -/
theorem Normal.write_list (hnormal : Normal text) :
    Component.write (Component.list text) = text := by
  by_cases hroot : text = [slash]
  · simp [hroot, Component.write, Component.list, split, Component.ofPiece?_nil]
  · have hjoin := hnormal.join_spelling_list hroot
    by_cases hlist : Component.list text = [.root]
    · -- Only the empty text would be joined from the root alone, but it has no components.
      simp only [hlist, List.map_cons, List.map_nil, Component.spelling, join] at hjoin
      simp [← hjoin, Component.list] at hlist
    · rw [Component.write, if_neg hlist, hjoin]

/-- A text has one normal form, the one that is written from its components. -/
theorem normalForm_iff {form : List α} :
    NormalForm text form ↔ form = Component.write (Component.list text) := by
  have hwritten : ∀ form, NormalForm text form → form = Component.write (Component.list text) := by
    intro form hform
    rw [list_eq_of_normalForm hform, hform.1.write_list]
  refine ⟨hwritten form, ?_⟩
  rintro rfl
  obtain ⟨form, hform⟩ := exists_normalForm text
  rwa [← hwritten form hform]

example : NormalForm "./a/.//..//b/.".toList "./a/../b".toList :=
  normalForm_iff.mpr (by decide)

theorem list_eq_iff_normalForm :
    Component.list left = Component.list right ↔
      ∃ form, NormalForm left form ∧ NormalForm right form := by
  constructor
  · intro hlist
    exact ⟨_, normalForm_iff.mpr rfl, normalForm_iff.mpr (by rw [hlist])⟩
  · rintro ⟨form, hleft, hright⟩
    exact (list_eq_of_normalForm hleft).trans (list_eq_of_normalForm hright).symm

end PathText

namespace Path

variable {path left right : Path}

def Normal (path : Path) : Prop :=
  PathText.Normal path.text.toList

def NormalForm (path form : Path) : Prop :=
  PathText.NormalForm path.text.toList form.text.toList

/-- A path is spelled out by one more slash or `.` piece. -/
def Respells (path longer : Path) : Prop :=
  PathText.Respells path.text.toList longer.text.toList

/-- Every path has exactly one normal form. -/
theorem existsUnique_normalForm (path : Path) : ∃! form : Path, path.NormalForm form := by
  refine ⟨⟨String.ofList (Component.write path.components)⟩, ?_, ?_⟩
  · simp [NormalForm, PathText.normalForm_iff, components]
  · rintro ⟨form⟩ hform
    have htext := PathText.normalForm_iff.mp hform
    simp only [components, ← htext, String.ofList_toList]

/-- Paths are equivalent exactly when they have the same normal form. -/
theorem equivalent_iff_normalForm :
    left.Equivalent right ↔ ∃ form : Path, left.NormalForm form ∧ right.NormalForm form := by
  unfold Equivalent components
  rw [PathText.list_eq_iff_normalForm]
  constructor
  · rintro ⟨form, hleft, hright⟩
    exact ⟨⟨String.ofList form⟩, by simpa [NormalForm] using hleft,
      by simpa [NormalForm] using hright⟩
  · rintro ⟨form, hleft, hright⟩
    exact ⟨form.text.toList, hleft, hright⟩

theorem equivalent_equivalence : Equivalence Equivalent :=
  ⟨fun _ => rfl, fun hsame => hsame.symm, fun hleft hright => hleft.trans hright⟩

/-- Normal paths are equivalent only to themselves. -/
theorem Normal.eq_of_equivalent (hleft : left.Normal) (hright : right.Normal)
    (hsame : left.Equivalent right) : left = right := by
  have hwrite := congrArg Component.write hsame
  unfold components at hwrite
  rw [PathText.Normal.write_list hleft, PathText.Normal.write_list hright] at hwrite
  obtain ⟨left⟩ := left
  obtain ⟨right⟩ := right
  exact congrArg Path.mk (String.toList_injective hwrite)

theorem equivalent_of_respells (hrespells : path.Respells right) : path.Equivalent right :=
  PathText.list_eq_of_respells hrespells

end Path

end CompilerDriver
