import ScheduleShape.Access.Matcher

set_option autoImplicit false

namespace ScheduleShape

variable [Affine]

-- Where something was put together. Printing knows by its mark whether something is inside itself.
-- What is drawn from accesses holds nothing but expressions and has no mark.
abbrev Mark := List Nat

mutual

inductive Operand where
  | value (held : Value)
  | expression (affine : Expression)
  | relation (held : Relation)
  | matcher (held : AccessMatcher)
  | constraint (held : Constraint)
  | constraints (held : ConstraintList)
  | finder (held : Finder)
  | items (mark : Mark) (held : List Operand)

structure Constraint where
  label : Label
  term : Operand
  mark : Option Mark := none

-- The constraints that come from one access. The arity `-1` marks the empty list, which no access
-- gives rise to.
structure ConstraintList where
  arity : Int
  members : List Operand
  mark : Option Mark := none

structure Finder where
  reads : Operand
  writes : Operand
  readers : List AccessMatcher
  writers : List AccessMatcher
  both : List AccessMatcher

end

namespace Operand

def typeName : Operand → String
  | value held => held.typeName
  | expression _ => "PwAff"
  | relation held => held.typeName
  | matcher _ => "RelationMatcher"
  | constraint _ => "Constraint"
  | constraints _ => "ConstraintsList"
  | finder _ => "Finder"
  | items .. => "list"

def className : Operand → String
  | value held => held.typeName
  | items .. => "list"
  | operand@(expression _) => affineClassName operand.typeName
  | operand@(relation _) => affineClassName operand.typeName
  | operand@(matcher _) => "polymatch.relation_matchers." ++ operand.typeName
  | operand@(constraint _) => "polymatch.constraints." ++ operand.typeName
  | operand@(constraints _) => "polymatch.constraints." ++ operand.typeName
  | operand@(finder _) => "polymatch.finder." ++ operand.typeName

def single? : Operand → Option Access
  | relation (.single access) => some access
  | _ => none

def agrees : Operand → Operand → Except Fault Bool
  | expression first, expression second => Affine.plainEqual first second
  | expression _, other => .error (.notExpression other.className)
  | operand, other => match operand.single?, other.single? with
    | some first, some second => Affine.plainEqualAccess first second
    | some _, none => .error (.notSingle other.className)
    | none, _ => .error (.noField operand.typeName "plain_is_equal")

def accesses : Operand → List Access
  | relation held => held.accesses
  | _ => []

end Operand

end ScheduleShape
