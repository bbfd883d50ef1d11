import CompilerDriver.Configuration.Dump
import CompilerDriver.Proofs.Text.Quoted

/-!
The layouts of a dump.  In either of them a record is its fields with a separator between each two
(`record_eq`), and making a text deeper changes nothing in it but what its lines begin with.  So the
values of a record can be read back when each of them shows where it ends
(`eq_of_record_append_eq`), and the texts that are quoted in a record are those that are quoted in
its values (`quoting_record`), since a quoted text has only one line.
-/

namespace CompilerDriver

open Quoted

namespace Layout

variable {layout : Layout} {name : String} {fields others : List (String × String)}

/-- What is written for a character when its text is made deeper. -/
def deepenChar (c : Char) : List Char :=
  if c = '\n' then "\n    ".toList else [c]

/-- What stands between the name of a record and its first field. -/
def opening : Layout → String
  | .oneLine => " \x7b "
  | .indented => " \x7b\n"

/-- What stands between two fields. -/
def separator : Layout → String
  | .oneLine => ", "
  | .indented => ",\n"

/-- What stands behind the last field. -/
def closing : Layout → String
  | .oneLine => " \x7d"
  | .indented => ",\n\x7d"

/-- A field with its value. -/
def field : Layout → String × String → String
  | .oneLine, (name, value) => name ++ ": " ++ value
  | .indented, (name, value) => deepen (name ++ ": " ++ value)

/-- The characters that a layout adds to names and values. -/
def signs (layout : Layout) : String :=
  layout.opening ++ layout.separator ++ layout.closing ++ ": ()"

theorem toList_deepen (text : String) :
    (deepen text).toList = "    ".toList ++ text.toList.flatMap deepenChar := by
  rw [deepen, String.toList_append]
  exact congrArg ("    ".toList ++ ·) String.toList_ofList

theorem join_terminated (terminator : String) {texts : List String} (htexts : texts ≠ []) :
    String.join (texts.map (· ++ terminator)) = terminator.intercalate texts ++ terminator := by
  induction texts with
  | nil => exact absurd rfl htexts
  | cons first rest ih =>
      cases rest with
      | nil => simp
      | cons second rest =>
          rw [List.map_cons, String.join_cons, ih (List.cons_ne_nil _ _),
            String.intercalate_cons_cons]
          simp only [String.append_assoc]

/-- A record that has fields is these fields with a separator between each two. -/
theorem record_eq (layout : Layout) (name : String) (hfields : fields ≠ []) :
    layout.record name fields =
      name ++ layout.opening ++ layout.separator.intercalate (fields.map layout.field)
        ++ layout.closing := by
  cases layout with
  | oneLine => rfl
  | indented =>
      have hitems : fields.map indented.field ≠ [] := by simpa using hfields
      have hbody : String.join (fields.map fun item => indented.field item ++ ",\n") =
          ",\n".intercalate (fields.map indented.field) ++ ",\n" := by
        rw [← join_terminated ",\n" hitems, List.map_map]
        rfl
      have hclosing : indented.closing = ",\n" ++ "\x7d" := by decide
      calc indented.record name fields
          = name ++ indented.opening
              ++ String.join (fields.map fun item => indented.field item ++ ",\n") ++ "\x7d" := by
            rw [record, List.map_map]
            rfl
        _ = name ++ indented.opening ++ indented.separator.intercalate (fields.map indented.field)
              ++ indented.closing := by
            rw [hbody, hclosing, ← String.append_assoc, ← String.append_assoc]
            rfl

section kinds

variable {kind : Char → Prop} (hsigns : Every kind layout.signs)
include hsigns

theorem every_of_signs {literal : String} (hliteral : Every (· ∈ layout.signs.toList) literal) :
    Every kind literal :=
  fun c hc => hsigns c (hliteral c hc)

theorem every_deepen {text : String} (hlayout : layout = .indented) (htext : Every kind text) :
    Every kind (deepen text) := by
  subst hlayout
  have hlead : Every kind "    " := every_of_signs hsigns (by decide)
  have hbreak : Every kind "\n    " := every_of_signs hsigns (by decide)
  intro c hc
  rw [toList_deepen, List.mem_append, List.mem_flatMap] at hc
  obtain hc | ⟨inner, hinner, hc⟩ := hc
  · exact hlead c hc
  · unfold deepenChar at hc
    split at hc
    · exact hbreak c hc
    · rw [List.mem_singleton.1 hc]
      exact htext inner hinner

theorem every_wrap {value : String} (hname : Every kind name) (hvalue : Every kind value) :
    Every kind (layout.wrap name value) := by
  cases layout with
  | oneLine =>
      have hopen : Every kind "(" := every_of_signs hsigns (by decide)
      have hclose : Every kind ")" := every_of_signs hsigns (by decide)
      exact ((hname.append hopen).append hvalue).append hclose
  | indented =>
      have hopen : Every kind "(\n" := every_of_signs hsigns (by decide)
      have hclose : Every kind ",\n)" := every_of_signs hsigns (by decide)
      exact ((hname.append hopen).append (every_deepen hsigns rfl hvalue)).append hclose

theorem every_field {item : String × String} (hname : Every kind item.1)
    (hvalue : Every kind item.2) : Every kind (layout.field item) := by
  have hcolon : Every kind ": " := every_of_signs hsigns (by cases layout <;> decide)
  have hitem := (hname.append hcolon).append hvalue
  cases layout with
  | oneLine => exact hitem
  | indented => exact every_deepen hsigns rfl hitem

/-- A layout adds nothing to a record but its own signs. -/
theorem every_record (hname : Every kind name) (hne : fields ≠ [])
    (hfields : ∀ item ∈ fields, Every kind item.1 ∧ Every kind item.2) :
    Every kind (layout.record name fields) := by
  have hopening : Every kind layout.opening := every_of_signs hsigns (by cases layout <;> decide)
  have hseparator : Every kind layout.separator :=
    every_of_signs hsigns (by cases layout <;> decide)
  have hclosing : Every kind layout.closing := every_of_signs hsigns (by cases layout <;> decide)
  rw [record_eq layout name hne]
  refine ((hname.append hopening).append (every_intercalate hseparator ?_)).append hclosing
  intro text htext
  obtain ⟨item, hitem, rfl⟩ := List.mem_map.1 htext
  exact every_field hsigns (hfields item hitem).1 (hfields item hitem).2

end kinds

section values

theorem deepenChar_eq_cons (c : Char) :
    deepenChar c = c :: if c = '\n' then "    ".toList else [] := by
  unfold deepenChar
  split
  · rename_i hbreak
    rw [hbreak]
    rfl
  · rfl

theorem flatMap_deepenChar_of_notMem {text : List Char} (htext : '\n' ∉ text) :
    text.flatMap deepenChar = text := by
  induction text with
  | nil => rfl
  | cons c rest ih =>
      rw [List.mem_cons, not_or] at htext
      rw [List.flatMap_cons, deepenChar, if_neg (Ne.symm htext.1), ih htext.2]
      rfl

/-- What is written deeper still begins with what is written there. -/
theorem prefix_or_prefix_of_deepened {left right first second : List Char}
    (hsame : left.flatMap deepenChar ++ first = right.flatMap deepenChar ++ second) :
    left <+: right ∨ right <+: left := by
  induction left generalizing right with
  | nil => exact Or.inl List.nil_prefix
  | cons c left ih =>
      cases right with
      | nil => exact Or.inr List.nil_prefix
      | cons d right =>
          -- Each character stands in front of what is written for it, so the two lists have it in
          -- common, and then all that is written for it.
          simp only [List.flatMap_cons, deepenChar_eq_cons, List.cons_append, List.append_assoc,
            List.cons.injEq] at hsame
          obtain ⟨rfl, hrest⟩ := hsame
          obtain hbegins | hbegins := ih (List.append_cancel_left hrest)
          · exact Or.inl ((List.prefix_cons_inj c).2 hbegins)
          · exact Or.inr ((List.prefix_cons_inj c).2 hbegins)

theorem delimited_deepened {value other : String} (hvalue : Delimited String.toList value other) :
    Delimited (fun text : String => text.toList.flatMap deepenChar) value other := by
  intro first second hsame
  obtain ⟨rest, hrest⟩ | ⟨rest, hrest⟩ := prefix_or_prefix_of_deepened hsame
  · exact hvalue rest [] (by rw [hrest, List.append_nil])
  · exact hvalue [] rest (by rw [hrest, List.append_nil])

/-- A field is delimited by its value. -/
theorem delimited_field {item other : String × String} (hname : item.1 = other.1)
    (hvalue : Delimited String.toList item.2 other.2) :
    Delimited (fun item => (layout.field item).toList) item other := by
  obtain ⟨name, value⟩ := item
  obtain ⟨_, second⟩ := other
  cases hname
  intro first rest hsame
  cases layout with
  | oneLine =>
      simp only [field, String.toList_append, List.append_assoc] at hsame
      have hvalues := List.append_cancel_left (List.append_cancel_left hsame)
      exact congrArg (Prod.mk name) (hvalue _ _ hvalues)
  | indented =>
      simp only [field, toList_deepen, String.toList_append, List.flatMap_append,
        List.append_assoc] at hsame
      have hfields := List.append_cancel_left hsame
      have hvalues := List.append_cancel_left (List.append_cancel_left hfields)
      exact congrArg (Prod.mk name) (delimited_deepened hvalue _ _ hvalues)

/-- The values of a record are read back when each of them shows where it ends. -/
theorem eq_of_record_append_eq {first second : List Char}
    (hfields : List.Forall₂ (fun item other =>
      item.1 = other.1 ∧ Delimited String.toList item.2 other.2) fields others)
    (hsame : (layout.record name fields).toList ++ first =
      (layout.record name others).toList ++ second) : fields = others := by
  have hdelimited :
      List.Forall₂ (Delimited fun item => (layout.field item).toList) fields others :=
    hfields.imp fun _ _ hitem => delimited_field hitem.1 hitem.2
  cases hfields with
  | nil => rfl
  | cons hitem hrest =>
      rw [record_eq layout name (List.cons_ne_nil _ _),
        record_eq layout name (List.cons_ne_nil _ _)] at hsame
      simp only [String.toList_append, String.toList_intercalate, List.map_map, List.append_assoc]
        at hsame
      apply eq_of_intercalate_append_eq hdelimited
      exact List.append_cancel_left (List.append_cancel_left hsame)

end values

section quoting

variable {texts : List String}

/-- A value in which these texts are quoted, as it stands and when it is made deeper. -/
def QuotingValue (value : String) (texts : List String) : Prop :=
  Quoting value.toList texts ∧ Quoting (value.toList.flatMap deepenChar) texts

theorem quote_notMem_deepened {text : List Char} (htext : '"' ∉ text) :
    '"' ∉ text.flatMap deepenChar := by
  intro hmem
  obtain ⟨c, hc, hquote⟩ := List.mem_flatMap.1 hmem
  rw [deepenChar_eq_cons, List.mem_cons] at hquote
  obtain rfl | hquote := hquote
  · exact htext hc
  · split at hquote
    · revert hquote
      decide
    · exact List.not_mem_nil hquote

theorem quotingValue_of_notMem {value : String} (hvalue : '"' ∉ value.toList) :
    QuotingValue value [] :=
  ⟨quoting_of_notMem hvalue, quoting_of_notMem (quote_notMem_deepened hvalue)⟩

/-- A quoted text has no line behind the first, so it stands deeper as it is. -/
theorem quotingValue_quote (text : String) : QuotingValue (quote text) [text] := by
  have hbreak : '\n' ∉ (quote text).toList := fun hmem => every_quote text _ hmem (by decide)
  refine ⟨quoting_quote text, ?_⟩
  rw [flatMap_deepenChar_of_notMem hbreak]
  exact quoting_quote text

theorem quoting_field {item : String × String} (hname : '"' ∉ item.1.toList)
    (hvalue : QuotingValue item.2 texts) : Quoting (layout.field item).toList texts := by
  have hlead : '"' ∉ (item.1 ++ ": ").toList := by
    rw [String.toList_append, List.mem_append, not_or]
    exact ⟨hname, by decide⟩
  cases layout with
  | oneLine =>
      change Quoting (item.1 ++ ": " ++ item.2).toList texts
      rw [String.toList_append]
      exact (quoting_of_notMem hlead).append hvalue.1
  | indented =>
      have hspaces : '"' ∉ "    ".toList := by decide
      change Quoting (deepen (item.1 ++ ": " ++ item.2)).toList texts
      rw [toList_deepen, String.toList_append, List.flatMap_append]
      exact (quoting_of_notMem hspaces).append
        ((quoting_of_notMem (quote_notMem_deepened hlead)).append hvalue.2)

/-- What is quoted in a record is what is quoted in its values. -/
theorem quoting_record (hname : '"' ∉ name.toList) (hne : fields ≠ []) {texts : List (List String)}
    (hnames : ∀ item ∈ fields, '"' ∉ item.1.toList)
    (hvalues : List.Forall₂ (fun item => QuotingValue item.2) fields texts) :
    Quoting (layout.record name fields).toList texts.flatten := by
  have hopening : '"' ∉ layout.opening.toList := by cases layout <;> decide
  have hseparator : '"' ∉ layout.separator.toList := by cases layout <;> decide
  have hclosing : '"' ∉ layout.closing.toList := by cases layout <;> decide
  have hfields := (List.forall₂_and_left fields texts).2 ⟨hnames, hvalues⟩
  have hitems : List.Forall₂ Quoting (fields.map fun item => (layout.field item).toList) texts :=
    List.forall₂_map_left_iff.2 (hfields.imp fun _ _ hitem => quoting_field hitem.1 hitem.2)
  rw [record_eq layout name hne]
  simp only [String.toList_append, String.toList_intercalate, List.map_map, List.append_assoc]
  have hrecord := (quoting_of_notMem hname).append ((quoting_of_notMem hopening).append
    ((quoting_intercalate hseparator hitems).append (quoting_of_notMem hclosing)))
  rw [List.nil_append, List.nil_append, List.append_nil] at hrecord
  exact hrecord

end quoting

end Layout

end CompilerDriver
