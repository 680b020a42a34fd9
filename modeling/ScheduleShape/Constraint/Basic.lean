import ScheduleShape.Event
import ScheduleShape.Operand.Basic

set_option autoImplicit false

namespace ScheduleShape

variable [Affine]

namespace Constraint

def make (label : Value) (term : Operand) (mark : Option Mark) : Except Fault Constraint :=
  match Label.ofValue? label with
  | some label => .ok { label, term, mark }
  | none => .error (.notConstraintLabel label)

def agreesWith (constraint : Constraint) : Operand → Except Fault Bool
  | .constraint other =>
      if constraint.label = other.label then constraint.term.agrees other.term else .ok false
  | operand => .error (.noField operand.typeName "label")

end Constraint

def Operand.term? : Operand → Option Operand
  | constraint held => some held.term
  | _ => none

namespace ConstraintList

def empty : ConstraintList := { arity := -1, members := [] }

def isEmpty (list : ConstraintList) : Bool := list.arity == -1

def ofConstraints (arity : Int) (constraints : List Constraint) : ConstraintList :=
  { arity, members := constraints.map .constraint }

def constraintsOf : List Operand → Except Fault (List Constraint)
  | [] => .ok []
  | .constraint constraint :: members => (constraintsOf members).map (constraint :: ·)
  | operand :: _ => .error (.noField operand.typeName "label")

def constraints (list : ConstraintList) : Except Fault (List Constraint) :=
  constraintsOf list.members

def terms (list : ConstraintList) : List Operand := list.members.filterMap Operand.term?

end ConstraintList

namespace Constraint

def confirmedBy (constraint : Constraint) : List Operand → Except Fault Bool
  | [] => .ok false
  | member :: members => do
      if ← constraint.agreesWith member then pure true else constraint.confirmedBy members

end Constraint

def confirmed (others : List Operand) :
    List Label → List Operand → Except Fault (List Constraint)
  | _, [] => .ok []
  | reported, .constraint constraint :: members =>
      if constraint.label ∈ reported then confirmed others reported members
      else do
        if ← constraint.confirmedBy others then
          let rest ← confirmed others (constraint.label :: reported) members
          pure (constraint :: rest)
        else confirmed others reported members
  | _, operand :: _ => .error (.noField operand.typeName "label")

namespace ConstraintList

def compare (first second : ConstraintList) : Except Fault ConstraintList :=
  if first.isEmpty || second.isEmpty then .ok empty
  else if first.arity != second.arity then .ok empty
  else do
    match ← confirmed second.members [] first.members with
    | [] => pure empty
    | agreed => pure (ofConstraints first.arity agreed)

def comparisonEvents (first second : ConstraintList) : List Event :=
  if first.isEmpty || second.isEmpty then []
  else if first.arity != second.arity then [.aritiesDiffer first.arity second.arity]
  else []

end ConstraintList

namespace Operand

def toRelation : Operand → Except Fault Relation
  | relation held => .ok held
  | operand => .error (.notRelation operand.className)

def toMatcher (field : String) : Operand → Except Fault AccessMatcher
  | matcher held => .ok held
  | operand => .error (.noField operand.typeName field)

def toConstraint (field : String) : Operand → Except Fault Constraint
  | constraint held => .ok held
  | operand => .error (.noField operand.typeName field)

def toConstraints (field : String) : Operand → Except Fault ConstraintList
  | constraints held => .ok held
  | operand => .error (.noField operand.typeName field)

def toFinder (field : String) : Operand → Except Fault Finder
  | finder held => .ok held
  | operand => .error (.noField operand.typeName field)

def elements : Operand → Except Fault (List Operand)
  | items _ held => .ok held
  | constraints held => .ok held.members
  | value held => held.elements.map fun values => values.map value
  | operand => .error (.notIterable operand.typeName)

def isEmpty : Operand → Except Fault Bool
  | constraints held => .ok held.isEmpty
  | relation held => held.isEmpty
  | expression affine => Affine.expressionIsEmpty affine
  | operand => .error (.noField operand.typeName "is_empty")

def compare (first second : Operand) : Except Fault (ConstraintList × List Event) := do
  if ← first.isEmpty then pure (.empty, [])
  else if ← second.isEmpty then pure (.empty, [])
  else do
    let list ← first.toConstraints "dims_involved"
    let other ← second.toConstraints "dims_involved"
    let agreed ← list.compare other
    pure (agreed, list.comparisonEvents other)

end Operand

end ScheduleShape
