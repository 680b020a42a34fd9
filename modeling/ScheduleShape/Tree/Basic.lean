import ScheduleShape.Payload
import ScheduleShape.Tree.Kind

set_option autoImplicit false

namespace ScheduleShape

variable [Affine]

inductive Tree where
  | carrier (kind : CarrierKind) (payload : Payload) (children : List Tree)
  | group (kind : GroupKind) (children : List Tree)
  | leaf
deriving Inhabited

namespace Tree

def kind : Tree → Kind
  | carrier kind _ _ => .carrier kind
  | group kind _ => .group kind
  | leaf => .leaf

def children : Tree → List Tree
  | carrier _ _ children => children
  | group _ children => children
  | leaf => []

def payload : Tree → Payload
  | carrier _ payload _ => payload
  | group _ _ => .value .null
  | leaf => .value .null

def ofKind (kind : Kind) (payload : Payload) (children : List Tree) : Tree :=
  match kind with
  | .carrier kind => carrier kind payload children
  | .group kind => group kind children
  | .leaf => leaf

def subtreeAt : Tree → List Nat → Option Tree
  | tree, [] => some tree
  | tree, index :: address => tree.children[index]?.bind fun child => child.subtreeAt address

mutual

def size : Tree → Nat
  | carrier _ _ children => 1 + forestSize children
  | group _ children => 1 + forestSize children
  | leaf => 1

def forestSize : List Tree → Nat
  | [] => 0
  | tree :: trees => size tree + forestSize trees

end

mutual

-- Equality of trees: kinds, then payloads, then the number of the children, then the children
-- from left to right. What comes after a difference is not looked at, so it raises no fault.
def same : Tree → Tree → Except Fault Bool
  | carrier kind payload children, other => match other with
    | carrier otherKind otherPayload others =>
        pure (kind == otherKind) <&&> payload.same otherPayload
          <&&> pure (children.length == others.length) <&&> sameForest children others
    | _ => pure false
  | group kind children, other => match other with
    | group otherKind others =>
        pure (kind == otherKind && children.length == others.length)
          <&&> sameForest children others
    | _ => pure false
  | leaf, other => match other with
    | leaf => pure true
    | _ => pure false

def sameForest : List Tree → List Tree → Except Fault Bool
  | [], [] => pure true
  | tree :: trees, other :: others => same tree other <&&> sameForest trees others
  | _, _ => pure false

end

@[simp]
theorem kind_of_kind (kind : Kind) (payload : Payload) (children : List Tree) :
    (ofKind kind payload children).kind = kind := by
  cases kind <;> rfl

theorem subtree_at_append (tree : Tree) (first second : List Nat) :
    tree.subtreeAt (first ++ second) = (tree.subtreeAt first).bind (·.subtreeAt second) := by
  induction first generalizing tree with
  | nil => rfl
  | cons index rest ih =>
      simp only [List.cons_append, subtreeAt]
      cases tree.children[index]? with
      | none => rfl
      | some child => simp [ih]

end Tree

inductive Item where
  | tree (node : Tree)
  | content (held : Payload)
deriving Inhabited

namespace Item

def typeName : Item → String
  | tree node => node.kind.name
  | content held => held.typeName

def kind : Item → Except Fault Kind
  | tree node => .ok node.kind
  | content held => .error (.noKind held.className)

def children : Item → Except Fault (List Tree)
  | tree node => .ok node.children
  | content held => .error (.noField held.typeName "children")

def payload : Item → Except Fault Payload
  | tree node => .ok node.payload
  | content held => .error (.noField held.typeName "payload")

def same : Item → Item → Except Fault Bool
  | tree node, tree other => node.same other
  | content held, content other => held.same other
  | _, _ => .ok false

end Item

def indentStep : String := "  "

def payloadSuffix (payload : Payload) : String :=
  if payload.isNull then "" else ": " ++ payload.display

namespace Tree

mutual

def lines (indent : String) : Tree → List String
  | carrier kind payload children =>
      (indent ++ (Kind.carrier kind).word ++ payloadSuffix payload)
        :: forestLines (indent ++ indentStep) children
  | group kind children =>
      (indent ++ (Kind.group kind).word) :: forestLines (indent ++ indentStep) children
  | leaf => [indent ++ Kind.leaf.word]

def forestLines (indent : String) : List Tree → List String
  | [] => []
  | tree :: trees => lines indent tree ++ forestLines indent trees

end

def render (tree : Tree) : String :=
  "\n".intercalate (tree.lines "")

end Tree

def Item.render : Item → String
  | .tree node => node.render
  | .content held => held.display

end ScheduleShape
