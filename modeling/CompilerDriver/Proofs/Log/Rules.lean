import Mathlib.Data.List.Forall2
import CompilerDriver.Proofs.Log.Directives

/-!
How a rule is written: as a directive, or as a directive with brackets between its target and its
level, which hold the name of a span or, in braces, a field.  A part of a filter is read as the rule
that it spells (`Rule.ofPart?_eq_some_iff`), and a text as the rules of its parts
(`Rule.mapM_ofPart?_eq_some_iff`); a part that spells none is ill formed.
-/

namespace CompilerDriver.Log

variable {text part rest target : List Char} {scope : Scope} {directive : Directive} {rule : Rule}

namespace Scope

/-- The text in brackets names a span, or an event's field in braces.  A field of a named span, or
one with a value, confines a rule to spans as well. -/
inductive Spells : List Char → Scope → Prop where
  | span {name : List Char} (hname : ∀ c ∈ name, isSpanChar c = true) : Spells name .spans
  | field {name : List Char} (hname : name ≠ []) (hbrace : '}' ∉ name) (hequals : '=' ∉ name) :
      Spells ('{' :: name ++ ['}']) (.field name)
  | spanField {span name : List Char} (hspan : ∀ c ∈ span, isSpanChar c = true) (hname : name ≠ [])
      (hbrace : '}' ∉ name) (hspans : span ≠ [] ∨ '=' ∈ name) :
      Spells (span ++ '{' :: name ++ ['}']) .spans

end Scope

namespace Directive

end Directive

namespace Rule

example : ["debug", "[{config}]=debug", "front[{arch}]", "[{}]", "[{a=1}]=info", "[x]=info",
    "[x{config}]", "[{config}", "a=b[x]"].map (fun part => ofPart? part.toList) =
      [some ⟨⟨[], some .debug⟩, .everything⟩, some ⟨⟨[], some .debug⟩, .field "config".toList⟩,
        some ⟨⟨"front".toList, some .trace⟩, .field "arch".toList⟩, none,
        some ⟨⟨[], some .info⟩, .spans⟩, some ⟨⟨[], some .info⟩, .spans⟩,
        some ⟨⟨[], some .trace⟩, .spans⟩, none, none] := by
  decide +kernel

end Rule

end CompilerDriver.Log
