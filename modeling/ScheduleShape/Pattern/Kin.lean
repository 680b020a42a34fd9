import ScheduleShape.Pattern.Guarded
import ScheduleShape.Pattern.Basic

set_option autoImplicit false

namespace ScheduleShape

variable [Affine]

inductive Siblings where
  | before
  | after
  | either

def Siblings.Has : Siblings → Nat → Nat → Prop
  | before, index, place => place < index
  | after, index, place => index < place
  | either, index, place => place ≠ index

inductive Kin where
  | beside (siblings : Siblings)
  | below

namespace Kin

def guard : Kin → Pattern → Guard
  | beside .before => .prevSibling
  | beside .after => .nextSibling
  | beside .either => .sibling
  | below => .descendant

def Relates (tree : Tree) (kin : Kin) (address other : List Nat) : Prop :=
  (tree.subtreeAt other).isSome ∧ match kin with
    | beside siblings => ∃ parent index place,
        address = parent ++ [index] ∧ other = parent ++ [place] ∧ siblings.Has index place
    | below => ∃ rest, rest ≠ [] ∧ other = address ++ rest

end Kin

namespace Pattern

inductive FailsInTurn (pattern : Pattern) (tree : Tree) : List (List Nat) → Memory → Memory → Prop where
  | nil {memory : Memory} : FailsInTurn pattern tree [] memory memory
  | cons {address : List Nat} {addresses : List (List Nat)} {memory between after : Memory}
      (failed : pattern.isMatching (.cursor (.inTree tree address)) memory = .ok false between)
      (later : FailsInTurn pattern tree addresses between after) :
      FailsInTurn pattern tree (address :: addresses) memory after

-- A run ends as the first match among the addresses does. Those before it have been tried in vain and
-- have left nothing in the slots, and those after it have not been tried. Each ends as if it had been
-- tried alone.
inductive FollowsFirst (pattern : Pattern) (tree : Tree) (addresses : List (List Nat)) (memory : Memory) :
    EStateM.Result Fault Memory Bool → Prop where
  | matched (before later : List (List Nat)) (witness : List Nat) {between after single : Memory}
      (split : addresses = before ++ witness :: later)
      (tried : pattern.FailsInTurn tree before memory between) (kept : between.slots = memory.slots)
      (ended : pattern.isMatching (.cursor (.inTree tree witness)) between = .ok true after)
      (vain : ∀ other ∈ before, ∃ alone,
        pattern.isMatching (.cursor (.inTree tree other)) memory = .ok false alone)
      (first : pattern.isMatching (.cursor (.inTree tree witness)) memory = .ok true single)
      (same : after.slots = single.slots) :
      FollowsFirst pattern tree addresses memory (.ok true after)
  | unmatched {after : Memory} (tried : pattern.FailsInTurn tree addresses memory after)
      (kept : after.slots = memory.slots)
      (vain : ∀ other ∈ addresses, ∃ alone,
        pattern.isMatching (.cursor (.inTree tree other)) memory = .ok false alone) :
      FollowsFirst pattern tree addresses memory (.ok false after)

structure LooksAmongKin (pattern : Pattern) (tree : Tree) (address : List Nat) (memory : Memory) : Prop where
  first (kin : Kin) : ∃ others : List (List Nat), others.Pairwise (· < ·)
    ∧ (∀ other, other ∈ others ↔ kin.Relates tree address other)
    ∧ pattern.FollowsFirst tree others memory ((kin.guard pattern).holds (.inTree tree address) memory)
  -- both sides are one side after the other, and the second only if there is no match on the first
  either : (Guard.sibling pattern).holds (.inTree tree address) = (do
    if ← (Guard.prevSibling pattern).holds (.inTree tree address) then pure true
    else (Guard.nextSibling pattern).holds (.inTree tree address))
  alone (siblings : Siblings) (top : address = []) :
    ((Kin.beside siblings).guard pattern).holds (.inTree tree address) memory = .ok false memory

def HasBelow (pattern : Pattern) (tree : Tree) (address : List Nat) (memory : Memory) : Prop :=
  ∃ final, (Guard.descendant pattern).holds (.inTree tree address) memory = .ok true final

end Pattern

end ScheduleShape
