import ScheduleShape.Schedule.Basic
import ScheduleShape.Tree.Basic

set_option autoImplicit false

namespace ScheduleShape

variable [Affine]

inductive Sketch where
  | node (kind : Kind) (payload : Value) (children : List Sketch)
  -- a plain value stands where the list of children should
  | loose (kind : Kind) (payload : Value) (children : Value)
  | value (held : Value)
  | schedule (source : Schedule)

def treesOfItems : List Item → Except Fault (List Tree)
  | [] => .ok []
  | .tree tree :: items => (treesOfItems items).map (tree :: ·)
  | .content held :: _ => .error (.childNotTree held.typeName)

namespace Tree

def build (kind : Kind) (payload : Payload) (children : List Item) : Except Fault Tree :=
  match kind with
  | .leaf => .ok leaf
  | kind => (treesOfItems children).map (ofKind kind payload)

def buildLoose (kind : Kind) (payload : Payload) : Value → Except Fault Tree
  | .list items => build kind payload (items.map fun item => .content (.value item))
  | value => match kind with
    | .leaf => .ok leaf
    | _ => .error (.childrenNotList value.typeName)

end Tree

namespace Sketch

mutual

def build : Sketch → Except Fault Item
  | node kind payload children => do
      let items ← buildAll children
      let tree ← Tree.build kind (.value payload) items
      pure (.tree tree)
  | loose kind payload children => (Tree.buildLoose kind (.value payload) children).map .tree
  | value held => pure (.content (.value held))
  | schedule source => source.toTree.map .tree

def buildAll : List Sketch → Except Fault (List Item)
  | [] => pure []
  | sketch :: sketches => do
      let item ← build sketch
      let items ← buildAll sketches
      pure (item :: items)

end

end Sketch

end ScheduleShape
