/-!
Texts all of whose characters are of one kind.  A text that is put together from such texts is one
itself.
-/

namespace CompilerDriver

/-- Every character of a text is of a kind. -/
def Every (kind : Char → Prop) (text : String) : Prop :=
  ∀ c ∈ text.toList, kind c

instance (kind : Char → Prop) [DecidablePred kind] (text : String) : Decidable (Every kind text) :=
  List.decidableBAll _ _

variable {kind : Char → Prop} {left right : String}

theorem Every.append (hleft : Every kind left) (hright : Every kind right) :
    Every kind (left ++ right) := by
  unfold Every
  rw [String.toList_append]
  exact List.forall_mem_append.2 ⟨hleft, hright⟩

theorem every_join {texts : List String} (htexts : ∀ text ∈ texts, Every kind text) :
    Every kind (String.join texts) := by
  intro c hc
  rw [String.toList_join] at hc
  obtain ⟨text, htext, hmem⟩ := List.mem_flatMap.1 hc
  exact htexts text htext c hmem

theorem every_intercalate {separator : String} {texts : List String}
    (hseparator : Every kind separator) (htexts : ∀ text ∈ texts, Every kind text) :
    Every kind (separator.intercalate texts) := by
  induction texts with
  | nil => exact nofun
  | cons first rest ih =>
      rw [List.forall_mem_cons] at htexts
      cases rest with
      | nil =>
          rw [String.intercalate_singleton]
          exact htexts.1
      | cons second rest =>
          rw [String.intercalate_cons_cons]
          exact (htexts.1.append hseparator).append (ih htexts.2)

end CompilerDriver
