import ScheduleShape.Fault
import ScheduleShape.Tree.Kind

set_option autoImplicit false

namespace ScheduleShape

/-- What is used of a library of affine sets and maps: the objects that nodes of schedules carry, the
accesses (maps between two spaces) and unions of them, and the expressions that are the outputs of
accesses which are functions. Whatever the library may refuse has a fault in place of the answer. -/
class Affine where
  Object : Type
  Access : Type
  AccessUnion : Type
  MultiExpression : Type
  Expression : Type
  payload : CarrierKind → String → Object
  typeName : Object → String
  objectText : Object → String
  size : Object → Except Fault Nat
  element : Int → Object → Except Fault Object
  isEqual : Object → Object → Except Fault Bool
  isEqualToValue : Object → Value → Except Fault Bool
  mapList : AccessUnion → List Access
  arity : Access → Nat
  isSingleValued : Access → Except Fault Bool
  fromMap : Access → Except Fault MultiExpression
  output : MultiExpression → Nat → Except Fault Expression
  plainEqual : Expression → Expression → Except Fault Bool
  plainEqualAccess : Access → Access → Except Fault Bool
  accessIsEmpty : Access → Except Fault Bool
  unionIsEmpty : AccessUnion → Except Fault Bool
  expressionIsEmpty : Expression → Except Fault Bool
  accessText : Access → String
  unionText : AccessUnion → String
  expressionText : Expression → String

export Affine (Object Access AccessUnion Expression)

namespace Affine

variable [Affine]

/-- The library answers what is asked of accesses and of their outputs: whether an access is
single-valued, what function a single-valued one is, each output of it, and whether two are equal. -/
structure Answers : Prop where
  decided : ∀ access, ∃ answer, isSingleValued access = .ok answer
  converted : ∀ access, isSingleValued access = .ok true → ∃ function, fromMap access = .ok function
  given : ∀ access function, fromMap access = .ok function → ∀ position < arity access,
    ∃ expression, output function position = .ok expression
  compared : ∀ first second, ∃ answer, plainEqual first second = .ok answer

def Same (first second : Expression) : Prop := plainEqual first second = .ok true

end Affine

section

variable [Affine]

inductive Relation where
  | single (access : Access)
  | union (held : AccessUnion)

namespace Relation

def accesses : Relation → List Access
  | single access => [access]
  | union held => Affine.mapList held

def typeName : Relation → String
  | single _ => "Map"
  | union _ => "UnionMap"

def isEmpty : Relation → Except Fault Bool
  | single access => Affine.accessIsEmpty access
  | union held => Affine.unionIsEmpty held

def text : Relation → String
  | single access => Affine.accessText access
  | union held => Affine.unionText held

end Relation

end

end ScheduleShape
