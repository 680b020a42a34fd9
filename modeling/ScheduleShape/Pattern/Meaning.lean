import ScheduleShape.Pattern.Basic
import ScheduleShape.Pattern.Match

set_option autoImplicit false

namespace ScheduleShape

variable [Affine]

def KindTest.Admits : KindTest → Kind → Prop
  | .any, _ => True
  | .exactly kind, found => kind = found

def Tree.arityAt (tree : Tree) (address : List Nat) : Nat :=
  match tree.subtreeAt address with
  | some node => node.children.length
  | none => 0

mutual

def Pattern.Matches (tree : Tree) : Pattern → List Nat → Prop
  | .value _, _ => False
  | .node test children guard _, address =>
      (∃ node, tree.subtreeAt address = some node ∧ test.Admits node.kind)
        ∧ Guard.Allows tree guard address
        ∧ (children = [] ∨
          (children.length = tree.arityAt address ∧ Pattern.MatchesFrom tree children address 0))

def Pattern.MatchesFrom (tree : Tree) : List Pattern → List Nat → Nat → Prop
  | [], _, _ => True
  | pattern :: patterns, address, index =>
      pattern.Matches tree (address ++ [index])
        ∧ Pattern.MatchesFrom tree patterns address (index + 1)

def Guard.Allows (tree : Tree) : Option Guard → List Nat → Prop
  | none, _ => True
  | some guard, address => guard.Holds tree address

def Guard.Holds (tree : Tree) : Guard → List Nat → Prop
  | .prevSibling sibling, address =>
      ∃ parent index other, address = parent ++ [index] ∧ other < index
        ∧ sibling.Matches tree (parent ++ [other])
  | .nextSibling sibling, address =>
      ∃ parent index other, address = parent ++ [index] ∧ index < other
        ∧ other < tree.arityAt parent ∧ sibling.Matches tree (parent ++ [other])
  | .sibling sibling, address =>
      ∃ parent index other, address = parent ++ [index] ∧ other ≠ index
        ∧ other < tree.arityAt parent ∧ sibling.Matches tree (parent ++ [other])
  | .descendant below, address =>
      ∃ rest, rest ≠ [] ∧ (tree.subtreeAt (address ++ rest)).isSome
        ∧ below.Matches tree (address ++ rest)
  | .matching pattern, address => pattern.Matches tree address
  | .test ask, address => ∀ slots, ask (.inTree tree address) slots = .ok true
  | .negation guard, address => ¬ guard.Holds tree address
  | .all guards, address => Guard.AllHold tree guards address
  | .some guards, address => Guard.SomeHolds tree guards address
  | .noted _ guard, address => guard.Holds tree address

def Guard.AllHold (tree : Tree) : List Guard → List Nat → Prop
  | [], _ => True
  | guard :: guards, address => guard.Holds tree address ∧ Guard.AllHold tree guards address

def Guard.SomeHolds (tree : Tree) : List Guard → List Nat → Prop
  | [], _ => False
  | guard :: guards, address => guard.Holds tree address ∨ Guard.SomeHolds tree guards address

end

def firstVerdict (judge : Cursor → Except Fault Bool) : List Cursor → Except Fault Bool
  | [] => pure false
  | cursor :: cursors => judge cursor <||> firstVerdict judge cursors

mutual

def Pattern.verdict : Pattern → Cursor → Except Fault Bool
  | .value held, _ => .error (.noField held.typeName "node_type")
  | .node test children guard _, cursor =>
      test.passes cursor <&&> Guard.verdictOf guard cursor <&&> fitsChildren children cursor
        <&&> Pattern.forestVerdict children cursor 0

def Pattern.forestVerdict : List Pattern → Cursor → Nat → Except Fault Bool
  | [], _, _ => pure true
  | pattern :: patterns, cursor, index =>
      pattern.verdict (cursor.follow (.child index))
        <&&> Pattern.forestVerdict patterns cursor (index + 1)

def Guard.verdictOf : Option Guard → Cursor → Except Fault Bool
  | none, _ => pure true
  | some guard, cursor => guard.verdict cursor

def Guard.verdict : Guard → Cursor → Except Fault Bool
  | .prevSibling sibling, cursor => do firstVerdict sibling.verdict (← cursor.prevSiblings)
  | .nextSibling sibling, cursor => do firstVerdict sibling.verdict (← cursor.nextSiblings)
  | .sibling sibling, cursor =>
      (do firstVerdict sibling.verdict (← cursor.prevSiblings))
        <||> (do firstVerdict sibling.verdict (← cursor.nextSiblings))
  | .descendant below, cursor => do firstVerdict below.verdict (← cursor.descendants)
  | .matching (.value held), _ => .error (.notPattern held.typeName)
  | .matching (.node test children guard slot), cursor =>
      (Pattern.node test children guard slot).verdict cursor
  | .test ask, cursor => ask cursor fun _ => none
  | .negation guard, cursor => do pure !(← guard.verdict cursor)
  | .all guards, cursor => Guard.allVerdict guards cursor
  | .some guards, cursor => Guard.someVerdict guards cursor
  | .noted _ guard, cursor => guard.verdict cursor

def Guard.allVerdict : List Guard → Cursor → Except Fault Bool
  | [], _ => pure true
  | guard :: guards, cursor => guard.verdict cursor <&&> Guard.allVerdict guards cursor

def Guard.someVerdict : List Guard → Cursor → Except Fault Bool
  | [], _ => pure false
  | guard :: guards, cursor => guard.verdict cursor <||> Guard.someVerdict guards cursor

end

end ScheduleShape
