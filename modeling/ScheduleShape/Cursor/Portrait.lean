import ScheduleShape.Cursor.Navigate

set_option autoImplicit false

namespace ScheduleShape

variable [Affine]

namespace Schedule

def Contains (schedule : Schedule) (kind : ScheduleKind) : Prop :=
  ∃ address node, schedule.subtreeAt address = some node ∧ node.kind = kind

-- What an affine library builds: it has no nodes for errors, and nothing below a leaf.
structure WellFormed (schedule : Schedule) : Prop where
  noError : ¬ schedule.Contains .error
  leaves : ∀ address node, schedule.subtreeAt address = some node → node.kind = .known .leaf →
    node.children = []

structure ShownBy (node : Schedule) (tree : Tree) : Prop where
  kind : node.kind = .known tree.kind
  childCount : node.children.length = tree.children.length
  payload : ∀ kind, tree.kind = .carrier kind → tree.payload = .object (Affine.payload kind node.payload)

end Schedule

namespace SchedulePlace

def earlier (place : SchedulePlace) : List Schedule :=
  match place.parent?, place.position? with
  | some parent, some position => parent.focus.children.take position
  | _, _ => []

def later (place : SchedulePlace) : List Schedule :=
  match place.parent?, place.position? with
  | some parent, some position => parent.focus.children.drop (position + 1)
  | _, _ => []

end SchedulePlace

namespace Cursor

def RestOn (cursors : List Cursor) (schedules : List Schedule) : Prop :=
  ∃ trees, Schedule.forestToTrees schedules = .ok trees
    ∧ cursors.map Cursor.found = trees.map fun tree => .ok (.tree tree)

structure Portrays (cursor : Cursor) (schedule : Schedule) (address : List Nat)
    (place : SchedulePlace) (whole part : Tree) : Prop where
  path : cursor.path = stepsOf address
  root : cursor.root = .tree whole
  ofWhole : schedule.toTree = .ok whole
  found : cursor.found = .ok (.tree part)
  ofPart : place.focus.toTree = .ok part
  nodes : ∀ rest, Option.Rel Schedule.ShownBy (schedule.subtreeAt (address ++ rest))
    (part.subtreeAt rest)
  earlier : ∃ cursors, cursor.prevSiblings = .ok cursors ∧ RestOn cursors place.earlier
  later : ∃ cursors, cursor.nextSiblings = .ok cursors ∧ RestOn cursors place.later

end Cursor

end ScheduleShape
