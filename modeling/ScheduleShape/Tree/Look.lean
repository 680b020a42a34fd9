import ScheduleShape.Text.Block

set_option autoImplicit false

namespace ScheduleShape

variable [Affine]

def Payload.shown? (payload : Payload) : Option String :=
  if payload.isNull then none else some payload.display

namespace Tree

structure Look where
  kind : Kind
  count : Nat
  shown : Option String
deriving DecidableEq

def look (tree : Tree) : Look := ⟨tree.kind, tree.children.length, tree.payload.shown?⟩

def LooksLike (tree other : Tree) : Prop :=
  ∀ address, (tree.subtreeAt address).map look = (other.subtreeAt address).map look

mutual

def OneLined : Tree → Prop
  | carrier _ payload children =>
      (∀ text, payload.shown? = some text → '\n' ∉ text.toList) ∧ ForestOneLined children
  | group _ children => ForestOneLined children
  | leaf => True

def ForestOneLined : List Tree → Prop
  | [] => True
  | tree :: trees => tree.OneLined ∧ ForestOneLined trees

end

def heading (tree : Tree) : String := tree.kind.word ++ payloadSuffix tree.payload

mutual

def toBlock : Tree → Text.Block
  | carrier kind payload children =>
      .node ((Kind.carrier kind).word ++ payloadSuffix payload) (toBlocks children)
  | group kind children => .node (Kind.group kind).word (toBlocks children)
  | leaf => .node Kind.leaf.word []

def toBlocks : List Tree → List Text.Block
  | [] => []
  | tree :: trees => tree.toBlock :: toBlocks trees

end

def lookOf? (block : Text.Block) : Option Look :=
  (Kind.ofWord? (String.ofList (block.heading.toList.takeWhile (· ≠ ':')))).map fun kind =>
    ⟨kind, block.parts.length, match block.heading.toList.dropWhile (· ≠ ':') with
      | ':' :: ' ' :: text => some (String.ofList text)
      | _ => none⟩

def lookIn? (text : String) (address : List Nat) : Option Look :=
  ((Text.Block.read text).head?.bind (·.blockAt address)).bind lookOf?

end Tree

end ScheduleShape
