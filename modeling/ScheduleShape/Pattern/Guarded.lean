import ScheduleShape.Pattern.Match
import ScheduleShape.Pattern.Position

set_option autoImplicit false

namespace ScheduleShape

variable [Affine]

mutual

def Pattern.GuardedBy (demanded : Guard → Prop) : Pattern → Prop
  | .value _ => False
  | .node _ children guard _ =>
      Pattern.ForestGuardedBy demanded children ∧ ∀ held ∈ guard, demanded held

def Pattern.ForestGuardedBy (demanded : Guard → Prop) : List Pattern → Prop
  | [] => True
  | pattern :: patterns => pattern.GuardedBy demanded ∧ Pattern.ForestGuardedBy demanded patterns

end

def Guard.AnswersIn (tree : Tree) (rooted : Prop) (guard : Guard) : Prop :=
  ∀ address, (tree.subtreeAt address).isSome → (address = [] → rooted) →
    ∀ memory, ∃ answer after, guard.holds (.inTree tree address) memory = .ok answer after

def Pattern.GuardsAnswer (tree : Tree) (rooted : Prop) (pattern : Pattern) : Prop :=
  pattern.GuardedBy (Guard.AnswersIn tree rooted)

mutual

def Pattern.changeGuards : Pattern → (List Nat → Guard → Guard) → Pattern
  | .value held, _ => .value held
  | .node test children guard slot, change =>
      .node test (Pattern.forestChangeGuards 0 children change) (guard.map (change [])) slot

def Pattern.forestChangeGuards (index : Nat) : List Pattern → (List Nat → Guard → Guard) → List Pattern
  | [], _ => []
  | pattern :: patterns, change =>
      pattern.changeGuards (fun position => change (index :: position))
        :: Pattern.forestChangeGuards (index + 1) patterns change

end

-- A match at a cursor gets to the guard of the node at a position and asks it, and then the memory is
-- as given: any fault that is put in the place of this guard is what the match ends with.
def Pattern.AsksAt (pattern : Pattern) (cursor : Cursor) (memory : Memory) (position : List Nat)
    (between : Memory) : Prop :=
  ∀ fault, (pattern.changeGuards fun place guard =>
    if place = position then .test (fun _ _ => .error fault) else guard).matchAt cursor memory
      = .error fault between

structure Pattern.FindsIn (pattern : Pattern) (tree : Tree) (address : List Nat) (found : List Cursor) :
    Prop where
  given (memory : Memory) :
    ∃ after, pattern.findAll (.cursor (.inTree tree address)) memory = .ok found after
  among (cursor : Cursor) (memory : Memory) : cursor ∈ found ↔
    (∃ rest, (tree.subtreeAt (address ++ rest)).isSome ∧ cursor = .inTree tree (address ++ rest))
      ∧ ∃ after, pattern.isMatching (.cursor cursor) memory = .ok true after
  once : found.Nodup
  ordered : ∃ addresses : List (List Nat), addresses.Pairwise (· < ·) ∧ (∀ other ∈ addresses, address <+: other)
    ∧ found = addresses.map (Cursor.inTree tree)
  unfolds : pattern.findAll (.cursor (.inTree tree address)) = (do
    let here ← pattern.isMatching (.cursor (.inTree tree address))
    let parts ← (← (Cursor.inTree tree address).children).mapM fun child => pattern.findAll (.cursor child)
    pure ((if here then [.inTree tree address] else []) ++ parts.flatten))
  unchanged (memory after : Memory) (slot : String) (own : slot ∈ pattern.ownSlots)
    (free : slot ∉ pattern.guardSlots) (empty : found = [])
    (ended : pattern.findAll (.cursor (.inTree tree address)) memory = .ok found after) :
    after.slots slot = memory.slots slot
  captured (memory after : Memory) (slot : String) (own : slot ∈ pattern.ownSlots)
    (free : slot ∉ pattern.guardSlots) (last : Cursor) (final : found.getLast? = some last)
    (ended : pattern.findAll (.cursor (.inTree tree address)) memory = .ok found after) :
    ∀ start single, pattern.isMatching (.cursor last) start = .ok true single →
      after.slots slot = single.slots slot

end ScheduleShape
