import ScheduleShape.Pattern.Basic
import ScheduleShape.Text.Block

set_option autoImplicit false

namespace ScheduleShape

variable [Affine]

def KindTest.ofWord? (word : String) : Option KindTest :=
  if word = KindTest.any.word then some .any else (Kind.ofWord? word).map .exactly

namespace Pattern

structure Look where
  test : KindTest
  guarded : Bool
  captured : Bool
  count : Nat
deriving DecidableEq

def look? : Pattern → Option Look
  | node test children guard slot => some ⟨test, guard.isSome, slot.isSome, children.length⟩
  | value _ => none

def children : Pattern → List Pattern
  | node _ children _ _ => children
  | value _ => []

def partAt : Pattern → List Nat → Option Pattern
  | pattern, [] => some pattern
  | pattern, index :: address => pattern.children[index]?.bind fun part => part.partAt address

def LooksLike (pattern other : Pattern) : Prop :=
  ∀ address, (pattern.partAt address).map look? = (other.partAt address).map look?

mutual

def toBlock : Pattern → Text.Block
  | node test children guard slot => .node (test.word ++ (guardMark guard ++ slotMark slot)) (toBlocks children)
  | value held => .node held.display []

def toBlocks : List Pattern → List Text.Block
  | [] => []
  | pattern :: patterns => pattern.toBlock :: toBlocks patterns

end

def lookOf? (block : Text.Block) : Option Look :=
  (KindTest.ofWord? (String.ofList (block.heading.toList.takeWhile (· ≠ ' ')))).map fun test =>
    { test
      guarded := " [guard]".toList.isPrefixOf (block.heading.toList.dropWhile (· ≠ ' '))
      captured := " [capture]".toList.isSuffixOf (block.heading.toList.dropWhile (· ≠ ' '))
      count := block.parts.length }

def lookIn? (text : String) (address : List Nat) : Option Look :=
  ((Text.Block.read text).head?.bind (·.blockAt address)).bind lookOf?

end Pattern

end ScheduleShape
