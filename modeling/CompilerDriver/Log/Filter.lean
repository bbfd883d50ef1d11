import CompilerDriver.Log.Level
import CompilerDriver.Text.CharClass
import CompilerDriver.Text.Split

/-!
Which log lines are shown.  A filter is a list of rules, written with commas between them.  A rule is
a directive, which sets the threshold for the targets that begin with its own; brackets confine it
to the events with a certain field, or to spans.  The most specific applicable rule decides.  White
space is never dropped from a rule, but a rule is judged by the first character that is none.
-/

namespace CompilerDriver.Log

/-- The threshold for every target that begins with `target`; the empty one begins them all. -/
structure Directive where
  target : List Char
  threshold : Threshold
  deriving DecidableEq, Repr

namespace Directive

/-- A character with which a directive may begin. -/
def mayBegin (c : Char) : Bool :=
  CharClass.isAlphanumeric c || c == '-' || c == ':' || c == '_'

/-- Whether a part of a filter can be a directive without brackets at all. -/
def isAcceptable (part : List Char) : Bool :=
  (part.dropWhile CharClass.isSpace).head?.any mayBegin && !part.contains '['

/-- The directive that a word alone spells: a level for every target, or else a target that shows
everything. -/
def ofWord (word : List Char) : Directive :=
  match Threshold.ofText? (String.ofList word) with
  | some threshold => ⟨[], threshold⟩
  | none => ⟨word, some .trace⟩

/-- The directive that a target and a level spell; without a level the target shows everything. -/
def ofPair? (target level : List Char) : Option Directive :=
  if target.head?.any CharClass.isSpace then none
  else if level = [] then some ⟨target, some .trace⟩
  else (Threshold.ofText? (String.ofList level)).map (⟨target, ·⟩)

/-- The directive that a part of a filter spells, if it is well formed and has no brackets. -/
def ofPart? (part : List Char) : Option Directive :=
  if isAcceptable part then
    match cut '=' part with
    | (word, none) => some (ofWord word)
    | (target, some level) => ofPair? target level
  else none

/-- The directive that a target spells with what stands behind its brackets: a level, or nothing but
white space. -/
def ofRest? (target rest : List Char) : Option Directive :=
  match rest with
  | '=' :: level => ofPair? target level
  | _ => if rest.all CharClass.isSpace then some ⟨target, some .trace⟩ else none

/-- Whether a directive applies to a target. -/
def applies (directive : Directive) (target : List Char) : Bool :=
  directive.target.isPrefixOf target

end Directive

/-- What a rule is confined to within its target. -/
inductive Scope where
  | everything
  /-- The events that have a field of this name. -/
  | field (name : List Char)
  /-- Spans, and what happens in them; the driver has none. -/
  | spans
  deriving DecidableEq, Repr

namespace Scope

/-- The field that an event must have. -/
def field? : Scope → Option (List Char)
  | .field name => some name
  | .everything | .spans => none

/-- Whether an event with these fields, outside of all spans, is in a scope. -/
def covers (fields : List (List Char)) : Scope → Bool
  | .everything => true
  | .field name => fields.contains name
  | .spans => false

/-- A character that may stand in the name of a span. -/
def isSpanChar (c : Char) : Bool :=
  c != ']' && c != '{'

/-- The scope of a field behind the name of a span.  A field with a value, or of a span with a name,
is looked for in spans alone. -/
def ofField (span name : List Char) : Scope :=
  if span = [] ∧ '=' ∉ name then .field name else .spans

/-- The scope that the text behind an opening bracket spells, and what stands behind the closing
bracket. -/
def read? (text : List Char) : Option (Scope × List Char) :=
  match text.dropWhile isSpanChar with
  | ']' :: rest => some (.spans, rest)
  | '{' :: inner =>
    match cut '}' inner with
    | (name, some (']' :: rest)) =>
      if name = [] then none else some (ofField (text.takeWhile isSpanChar) name, rest)
    | _ => none
  | _ => none

end Scope

/-- A directive, and what it is confined to. -/
structure Rule where
  directive : Directive
  scope : Scope
  deriving DecidableEq, Repr

namespace Rule

/-- Whether a target can stand in front of brackets. -/
def mayConfine (target : List Char) : Bool :=
  (target.dropWhile CharClass.isSpace).head?.all Directive.mayBegin && !target.contains '='

/-- The rule that a target spells with what stands behind its opening bracket. -/
def ofBrackets? (target text : List Char) : Option Rule :=
  if mayConfine target then
    match Scope.read? text with
    | some (scope, rest) => (Directive.ofRest? target rest).map (⟨·, scope⟩)
    | none => none
  else none

/-- The rule that a part of a filter spells, if it is well formed. -/
def ofPart? (part : List Char) : Option Rule :=
  match cut '[' part with
  | (_, none) => (Directive.ofPart? part).map (⟨·, .everything⟩)
  | (target, some text) => ofBrackets? target text

/-- Whether a rule applies to an event of a target with these fields. -/
def applies (rule : Rule) (target : List Char) (fields : List (List Char)) : Bool :=
  rule.directive.applies target && rule.scope.covers fields

/-- Whether a name comes no later than another in a dictionary. -/
def noLater : List Char → List Char → Bool
  | [], _ => true
  | _ :: _, [] => false
  | c :: left, d :: right => c.toNat < d.toNat || c == d && noLater left right

/-- Whether a rule is no more specific than another that applies to the same event: its target is
shorter, or as long and it asks for no field, or for one that comes no later in a dictionary. -/
def atMost (left right : Rule) : Bool :=
  left.directive.target.length < right.directive.target.length ||
    left.directive.target.length == right.directive.target.length &&
      match left.scope.field?, right.scope.field? with
      | none, _ => true
      | some _, none => false
      | some name, some other => noLater name other

end Rule

/-- The rules in force. -/
abbrev Filter := List Rule

namespace Filter

/-- The filter that lets every target through up to a level. -/
def upTo (level : Level) : Filter :=
  [⟨⟨[], some level⟩, .everything⟩]

/-- The parts of a filter's text that are not empty. -/
def parts (text : String) : List (List Char) :=
  (split ',' text.toList).filter (· ≠ [])

/-- The filter that a setting asks for.  No setting, or one with a bad part, leaves warnings; a
setting without any part leaves errors. -/
def ofSetting : Option String → Filter
  | none => upTo .warn
  | some text =>
    match (parts text).mapM Rule.ofPart? with
    | none => upTo .warn
    | some [] => upTo .error
    | some rules => rules

/-- The more specific of two rules; of equals, the later. -/
def prefer (best : Option Rule) (next : Rule) : Option Rule :=
  if best.all (·.atMost next) then some next else best

/-- The rule that decides about an event of a target with these fields. -/
def chosen? (filter : Filter) (target : List Char) (fields : List (List Char)) : Option Rule :=
  (filter.filter (·.applies target fields)).foldl prefer none

/-- Whether an event of a target, with these fields and of this level, is shown. -/
def admits (filter : Filter) (target : List Char) (fields : List (List Char)) (level : Level) :
    Bool :=
  match filter.chosen? target fields with
  | some rule => rule.directive.threshold.admits level
  | none => false

end Filter

end CompilerDriver.Log
