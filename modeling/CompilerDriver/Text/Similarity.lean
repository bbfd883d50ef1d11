/-!
Similarity of words, for suggesting the name that a user may have meant.  Two words are as similar
as their common characters say: a character is common when both words hold it at nearly the same
place, and common characters in a different order count half.
-/

namespace CompilerDriver.Similarity

/-- A character of the second word, with a mark when it already has a partner. -/
structure Slot where
  char : Char
  taken : Bool

/-- Gives `c` the first free equal partner among the slots from `first` up to, but not including,
`last`; the result is `none` when there is no such slot. -/
def take? (c : Char) : (first last : Nat) → List Slot → Option (List Slot)
  | _, 0, _ => none
  | _, _, [] => none
  | 0, last + 1, slot :: rest =>
    if slot.char = c ∧ slot.taken = false then some (⟨c, true⟩ :: rest)
    else (take? c 0 last rest).map (slot :: ·)
  | first + 1, last + 1, slot :: rest => (take? c first last rest).map (slot :: ·)

/-- The characters that find a partner within `reach` places of their own place, in order, and the
slots they leave; `place` is the place of the first character. -/
def pair (reach : Nat) : (place : Nat) → List Char → List Slot → List Char × List Slot
  | _, [], slots => ([], slots)
  | place, c :: rest, slots =>
    match take? c (place - reach) (place + reach + 1) slots with
    | some slots =>
      let (common, slots) := pair reach (place + 1) rest slots
      (c :: common, slots)
    | none => pair reach (place + 1) rest slots

/-- How many places hold different characters. -/
def differences (left right : List Char) : Nat :=
  ((left.zip right).filter fun (a, b) => a ≠ b).length

/-- The similarity of two words, from 0 to 1. -/
def score (left right : List Char) : Float :=
  let reach := max left.length right.length / 2 - 1
  let (common, slots) := pair reach 0 left (right.map (⟨·, false⟩))
  let partners := (slots.filter (·.taken)).map (·.char)
  if common.isEmpty then 0
  else
    let count := common.length
    let swaps := differences common partners / 2
    (Float.ofNat count / Float.ofNat left.length + Float.ofNat count / Float.ofNat right.length
      + Float.ofNat (count - swaps) / Float.ofNat count) / 3

/-- The least similarity that is worth a suggestion lies above this. -/
def threshold : Float := 0.7

/-- The better of two scored items: the later one wins unless it scores lower or too low. -/
def prefer {α : Type} (best : Option (Float × α)) (next : Float × α) : Option (Float × α) :=
  if next.1 > threshold && best.all (·.1 ≤ next.1) then some next else best

/-- The item whose name is most similar to a word, if one is similar enough; of equals, the
later. -/
def closest? {α : Type} (name : α → String) (word : String) (items : List α) : Option α :=
  let scored := items.map fun item => (score word.toList (name item).toList, item)
  (scored.foldl prefer none).map (·.2)

end CompilerDriver.Similarity
