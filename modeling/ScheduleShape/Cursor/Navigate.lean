import ScheduleShape.Cursor.Basic
import ScheduleShape.Schedule.Place
import ScheduleShape.Tree.Basic

set_option autoImplicit false

namespace ScheduleShape

variable [Affine]

namespace Cursor

def toRoot (cursor : Cursor) : Cursor := start cursor.root

def parent (cursor : Cursor) : Except Fault Cursor :=
  if cursor.isRoot then .error .rootHasNoParent else .ok cursor.up

-- Into a part of the node. The step is taken at once, so that the new cursor rests on something.
def enter (cursor : Cursor) (field : Field) (index : Option Int) : Except Fault Cursor := do
  let item ← cursor.found
  let holding ← item.part field
  let step ← holding.step index
  let _ ← item.step step
  pure (cursor.follow step)

def child (cursor : Cursor) (index : Int) : Except Fault Cursor :=
  if index < 0 then .error .cursorOutOfRange
  else do
    let count ← cursor.childCount
    if index < count then cursor.enter .children (some index) else .error .cursorOutOfRange

def children (cursor : Cursor) : Except Fault (List Cursor) := do
  let count ← cursor.childCount
  pure ((List.range count).map fun (index : Nat) => cursor.follow (.child index))

def next (cursor : Cursor) (distance : Int) : Except Fault Cursor :=
  match cursor.path.getLast? with
  | none => .error .rootCannotMove
  | some step => match step.index with
    | none => .error (.notAddable "NoneType" "int")
    | some index => cursor.up.enter step.field (some (index + distance))

def prev (cursor : Cursor) (distance : Int) : Except Fault Cursor :=
  cursor.next (-distance)

def prevSiblings (cursor : Cursor) : Except Fault (List Cursor) :=
  match cursor.path.getLast? with
  | none => .ok []
  | some step => do
      let siblings ← cursor.up.children
      pure (before siblings step.index)

def nextSiblings (cursor : Cursor) : Except Fault (List Cursor) :=
  match cursor.path.getLast? with
  | none => .ok []
  | some step => do
      let siblings ← cursor.up.children
      match step.index with
      | none => .error (.notAddable "NoneType" "int")
      | some index => pure (onward siblings (index + 1))

mutual

def below (cursor : Cursor) : Tree → List Cursor
  | .carrier _ _ children => belowForest cursor 0 children
  | .group _ children => belowForest cursor 0 children
  | .leaf => []

def belowForest (cursor : Cursor) (index : Nat) : List Tree → List Cursor
  | [] => []
  | tree :: trees =>
      cursor.follow (.child index) :: below (cursor.follow (.child index)) tree
        ++ belowForest cursor (index + 1) trees

end

def descendants (cursor : Cursor) : Except Fault (List Cursor) := do
  match ← cursor.found with
  | .tree tree => pure (cursor.below tree)
  | .content held => .error (.noField held.typeName "children")

def render (cursor : Cursor) : Except Fault String :=
  cursor.found.map Item.render

-- The cursor at the place of a schedule: the whole schedule becomes a tree, so that the parents
-- and siblings of the place are there.
def ofPlace (place : SchedulePlace) : Except Fault Cursor := do
  let tree ← place.root.toTree
  pure (inTree tree place.address)

end Cursor

end ScheduleShape
