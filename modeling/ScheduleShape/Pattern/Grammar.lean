import ScheduleShape.Pattern.Builder
import ScheduleShape.Pattern.Look

set_option autoImplicit false

namespace ScheduleShape

variable [Affine]

def Pattern.IsNode : Pattern → Prop
  | .node .. => True
  | .value _ => False

def Argument.IsPart : Argument → Prop
  | .pattern part => part.IsNode
  | _ => False

inductive Lead where
  | nothing
  | guard (held : Guard)
  | slot (name : String)

namespace Lead

def arguments : Lead → List Argument
  | nothing => []
  | guard held => [.guard held]
  | slot name => [.slot name]

def guard? : Lead → Option Guard
  | guard held => some held
  | _ => none

def slot? : Lead → Option String
  | slot name => some name
  | _ => none

def Heads : Lead → List Argument → Prop
  | nothing, .guard _ :: _ => False
  | nothing, .slot _ :: _ => False
  | _, _ => True

end Lead

namespace Builder

def test : Builder → KindTest
  | single kind => .exactly (.carrier kind)
  | many kind => .exactly (.group kind)
  | leaf => .exactly .leaf
  | any => .any

def Takes (builder : Builder) (lead : Lead) (count : Nat) : Prop :=
  match builder with
  | single _ => count = 1
  | many _ => 0 < count ∨ lead.guard?.isSome
  | leaf => lead.arguments.length + count = 0
  | any => count = 0

instance (builder : Builder) (lead : Lead) (count : Nat) : Decidable (builder.Takes lead count) :=
  match builder with
  | single _ => inferInstanceAs (Decidable (_ = _))
  | many _ => inferInstanceAs (Decidable (_ ∨ _))
  | leaf => inferInstanceAs (Decidable (_ = _))
  | any => inferInstanceAs (Decidable (_ = _))

structure Accepts (builder : Builder) (arguments : List Argument) (lead : Lead) (parts : List Pattern) :
    Prop where
  inTurn : arguments = lead.arguments ++ parts.map .pattern
  nodes : ∀ part ∈ parts, part.IsNode
  taken : builder.Takes lead parts.length

def countFault (builder : Builder) (given : Nat) : Fault :=
  match builder with
  | single _ => .notOneChild builder.word given
  | many _ => .childNeeded builder.word
  | leaf => .noArgumentTaken builder.word given
  | any => .noChildTaken builder.word

-- What is wrong with the arguments. The first of the rest that is no pattern is named; the patterns are
-- counted only when there is none. A leaf counts whatever it is given.
inductive Refuses (builder : Builder) : List Argument → Fault → Prop
  | foreign (lead : Lead) (parts : List Pattern) (argument : Argument) (rest : List Argument)
      (taking : builder ≠ leaf) (heads : lead.Heads (parts.map .pattern ++ argument :: rest))
      (nodes : ∀ part ∈ parts, part.IsNode) (odd : ¬ argument.IsPart) :
      Refuses builder (lead.arguments ++ (parts.map .pattern ++ argument :: rest))
        (.notChildPattern builder.word argument.typeName)
  | count (lead : Lead) (parts : List Pattern) (taking : builder ≠ leaf) (nodes : ∀ part ∈ parts, part.IsNode)
      (untaken : ¬ builder.Takes lead parts.length) :
      Refuses builder (lead.arguments ++ parts.map .pattern) (builder.countFault parts.length)
  | given (arguments : List Argument) (bare : builder = leaf) (some : arguments ≠ []) :
      Refuses builder arguments (builder.countFault arguments.length)

end Builder

namespace Pattern

inductive Built : Pattern → Prop
  | build (builder : Builder) (arguments : List Argument) (pattern : Pattern)
      (parts : ∀ part, .pattern part ∈ arguments → Built part)
      (built : Pattern.build builder arguments = .ok pattern) : Built pattern

def WellBuilt : Pattern → Prop
  | value _ => False
  | node test children guard slot =>
      (guard = none ∨ slot = none)
      ∧ (∀ kind, test = .exactly (.carrier kind) → children.length = 1)
      ∧ (children = [] → test = .exactly .leaf ∨ test = .any
        ∨ ∃ kind, test = .exactly (.group kind) ∧ guard.isSome)

end Pattern

end ScheduleShape
