import ScheduleShape.Pattern.Basic
import ScheduleShape.Pattern.Match
import ScheduleShape.Tree.Shape

set_option autoImplicit false

namespace ScheduleShape

variable [Affine]

mutual

def Pattern.muted (deaf : String → Bool) : Pattern → Pattern
  | .value held => .value held
  | .node test children guard slot =>
      .node test (Pattern.forestMuted deaf children) (Guard.anyMuted deaf guard) slot

def Pattern.forestMuted (deaf : String → Bool) : List Pattern → List Pattern
  | [] => []
  | pattern :: patterns => pattern.muted deaf :: Pattern.forestMuted deaf patterns

def Guard.anyMuted (deaf : String → Bool) : Option Guard → Option Guard
  | none => none
  | some guard => some (guard.muted deaf)

def Guard.muted (deaf : String → Bool) : Guard → Guard
  | .prevSibling sibling => .prevSibling (sibling.muted deaf)
  | .nextSibling sibling => .nextSibling (sibling.muted deaf)
  | .sibling sibling => .sibling (sibling.muted deaf)
  | .descendant below => .descendant (below.muted deaf)
  | .matching pattern => .matching (pattern.muted deaf)
  | .test ask => .test ask
  | .negation guard => .negation (guard.muted deaf)
  | .all guards => .all (Guard.allMuted deaf guards)
  | .some guards => .some (Guard.allMuted deaf guards)
  | .noted tag guard => if deaf tag then guard.muted deaf else .noted tag (guard.muted deaf)

def Guard.allMuted (deaf : String → Bool) : List Guard → List Guard
  | [] => []
  | guard :: guards => guard.muted deaf :: Guard.allMuted deaf guards

end

structure Twins where
  first : Tree
  second : Tree
  alike : first.SameShape second

namespace Twins

def Holds (twins : Twins) (before otherBefore held otherHeld : Option Cursor) : Prop :=
  (held = before ∧ otherHeld = otherBefore) ∨
    ∃ address, held = some (.inTree twins.first address) ∧ otherHeld = some (.inTree twins.second address)

-- What two runs have done to the memories that they started with: the same places were written into the
-- same slots, and the same places were noted in the same order.
structure Alike (twins : Twins) (start otherStart memory other : Memory) : Prop where
  slots (name : String) :
    twins.Holds (start.slots name) (otherStart.slots name) (memory.slots name) (other.slots name)
  notes : ∃ told, memory.trace = start.trace ++ told ∧ other.trace = otherStart.trace ++ told

def SamePlaces (twins : Twins) (found others : List Cursor) : Prop :=
  ∃ addresses : List (List Nat),
    found = addresses.map (Cursor.inTree twins.first) ∧ others = addresses.map (Cursor.inTree twins.second)

end Twins

def NodeTest.PayloadBlind (ask : NodeTest) : Prop :=
  ∀ (twins : Twins) (address : List Nat), (twins.first.subtreeAt address).isSome → ∀ slots otherSlots,
    ask (.inTree twins.first address) slots = ask (.inTree twins.second address) otherSlots

end ScheduleShape
