import ScheduleShape.Cursor.Basic
import ScheduleShape.Pattern.Basic

set_option autoImplicit false

namespace ScheduleShape

variable [Affine]

structure Relocation where
  tree : Tree
  address : List Nat
  part : Tree
  inside : tree.subtreeAt address = some part

namespace Relocation

def lift (move : Relocation) (cursor : Cursor) : Cursor where
  root := .tree move.tree
  path := Cursor.stepsOf move.address ++ cursor.path

-- What a slot holds in the tree and what it holds in the subtree alone, with what it held before in
-- either. Both may be as before; else both hold the same place of the subtree.
def Alike (move : Relocation) (before otherBefore held otherHeld : Option Cursor) : Prop :=
  (held = before ∧ otherHeld = otherBefore) ∨
    ∃ cursor, cursor.root = .tree move.part ∧ held = some (move.lift cursor) ∧ otherHeld = some cursor

end Relocation

inductive Level where
  | top
  | below
deriving DecidableEq, Repr

def NodeTest.Unanchored (ask : NodeTest) (level : Level) : Prop :=
  ∀ cursor other slots otherSlots, cursor.found = other.found →
    (level = .below → cursor.index = other.index) → ask cursor slots = ask other otherSlots

mutual

def Pattern.Unanchored : Pattern → Level → Prop
  | .value _, _ => True
  | .node _ children guard _, level =>
      Pattern.ForestUnanchored children ∧ Guard.UnanchoredAny guard level

def Pattern.ForestUnanchored : List Pattern → Prop
  | [] => True
  | pattern :: patterns => pattern.Unanchored .below ∧ Pattern.ForestUnanchored patterns

def Guard.UnanchoredAny : Option Guard → Level → Prop
  | none, _ => True
  | some guard, level => guard.Unanchored level

def Guard.Unanchored : Guard → Level → Prop
  | .prevSibling sibling, level => level = .below ∧ sibling.Unanchored .below
  | .nextSibling sibling, level => level = .below ∧ sibling.Unanchored .below
  | .sibling sibling, level => level = .below ∧ sibling.Unanchored .below
  | .descendant below, _ => below.Unanchored .below
  | .matching pattern, level => pattern.Unanchored level
  | .test ask, level => ask.Unanchored level
  | .negation guard, level => guard.Unanchored level
  | .all guards, level => Guard.UnanchoredAll guards level
  | .some guards, level => Guard.UnanchoredAll guards level
  | .noted _ guard, level => guard.Unanchored level

def Guard.UnanchoredAll : List Guard → Level → Prop
  | [], _ => True
  | guard :: guards, level => guard.Unanchored level ∧ Guard.UnanchoredAll guards level

end

end ScheduleShape
