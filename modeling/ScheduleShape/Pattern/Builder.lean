import ScheduleShape.Fault
import ScheduleShape.Pattern.Basic

set_option autoImplicit false

namespace ScheduleShape

variable [Affine]

inductive Builder where
  | single (kind : CarrierKind)
  | many (kind : GroupKind)
  | leaf
  | any
deriving DecidableEq, Repr

namespace Builder

def word : Builder → String
  | single kind => (Kind.carrier kind).word
  | many kind => (Kind.group kind).word
  | leaf => Kind.leaf.word
  | any => KindTest.any.word

def ofWord? (word : String) : Option Builder :=
  if word = KindTest.any.word then some any
  else match Kind.ofWord? word with
    | some (.carrier kind) => some (single kind)
    | some (.group kind) => some (many kind)
    | some .leaf => some leaf
    | none => none

end Builder

inductive Argument where
  | pattern (pattern : Pattern)
  | guard (guard : Guard)
  | slot (name : String)

def Argument.typeName : Argument → String
  | pattern (.node ..) => "ScheduleNodeMatcher"
  | pattern (.value held) => held.typeName
  | guard _ => "function"
  | slot _ => "Capture"

structure Leading where
  guard : Option Guard
  slot : Option String
  rest : List Argument

def Leading.split : List Argument → Leading
  | .slot name :: rest => ⟨none, some name, rest⟩
  | .guard guard :: rest => ⟨some guard, none, rest⟩
  | rest => ⟨none, none, rest⟩

def childPatterns (builder : String) : List Argument → Except Fault (List Pattern)
  | [] => .ok []
  | .pattern (.node test children guard slot) :: rest =>
      (childPatterns builder rest).map (.node test children guard slot :: ·)
  | argument :: _ => .error (.notChildPattern builder argument.typeName)

def Pattern.build (builder : Builder) (arguments : List Argument) : Except Fault Pattern :=
  match builder with
  | .leaf =>
      if arguments.isEmpty then .ok (.node (.exactly .leaf) [] none none)
      else .error (.noArgumentTaken builder.word arguments.length)
  | .single kind => do
      let leading := Leading.split arguments
      let children ← childPatterns builder.word leading.rest
      if children.length = 1 then
        pure (.node (.exactly (.carrier kind)) children leading.guard leading.slot)
      else .error (.notOneChild builder.word children.length)
  | .many kind => do
      let leading := Leading.split arguments
      let children ← childPatterns builder.word leading.rest
      -- only under a guard may the children be left open
      if children.isEmpty && leading.guard.isNone then .error (.childNeeded builder.word)
      else pure (.node (.exactly (.group kind)) children leading.guard leading.slot)
  | .any => do
      let leading := Leading.split arguments
      let children ← childPatterns builder.word leading.rest
      if children.isEmpty then pure (.node .any [] leading.guard leading.slot)
      else .error (.noChildTaken builder.word)

namespace Tree

mutual

def toPattern : Tree → Except Fault Pattern
  | carrier kind _ children => do
      Pattern.build (.single kind) ((← toPatterns children).map .pattern)
  | group kind children => do
      Pattern.build (.many kind) ((← toPatterns children).map .pattern)
  | leaf => Pattern.build .leaf []

def toPatterns : List Tree → Except Fault (List Pattern)
  | [] => pure []
  | tree :: trees => do
      let pattern ← tree.toPattern
      let patterns ← toPatterns trees
      pure (pattern :: patterns)

end

end Tree

end ScheduleShape
