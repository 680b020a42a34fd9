import ScheduleShape.Affine.Library
import ScheduleShape.Affine.Object
import ScheduleShape.Affine.Relation

set_option autoImplicit false

namespace ScheduleShape

def CarrierKind.sort : CarrierKind → AffineSort
  | .band => .expressions
  | .context => .set
  | .domain => .unionSet
  | .extension => .unionMap
  | .filter => .unionSet
  | .guard => .set
  | .mark => .name

def BoxAccess.function (access : BoxAccess) : Except Fault (List BoxExpression) :=
  match access.expressions? with
  | some expressions => .ok expressions
  | none => .error (.affineError "map is not single-valued")

def outputAt (expressions : List BoxExpression) (position : Nat) : Except Fault BoxExpression :=
  match expressions[position]? with
  | some expression => .ok expression
  | none => .error (.affineError "position out of bounds")

/-- The library for accesses whose statements have boxes of instances and whose arrows are each given by
affine forms. What lies between two spaces counts as a function when it is one such arrow. -/
instance boxes : Affine where
  Object := AffineObject
  Access := BoxAccess
  AccessUnion := BoxUnion
  MultiExpression := List BoxExpression
  Expression := BoxExpression
  payload kind written := ⟨kind.sort, written⟩
  typeName object := object.sort.typeName
  objectText := AffineObject.text
  size := AffineObject.size
  element _ object := .error (.notSubscriptable object.sort.typeName)
  isEqual := AffineObject.same
  isEqualToValue := AffineObject.sameAsValue
  mapList := BoxUnion.accesses
  arity := BoxAccess.arity
  isSingleValued access := .ok access.expressions?.isSome
  fromMap := BoxAccess.function
  output := outputAt
  plainEqual first second := .ok (first.agrees second)
  plainEqualAccess first second := .ok (first.same second)
  accessIsEmpty _ := .ok false
  unionIsEmpty held := .ok held.accesses.isEmpty
  expressionIsEmpty _ := .ok false
  accessText := BoxAccess.render
  unionText := BoxUnion.render
  expressionText := BoxExpression.render

def BoxUnion.relation (held : BoxUnion) (single : Bool) : Relation :=
  match single, held.accesses with
  | true, [access] => .single access
  | _, _ => .union held

end ScheduleShape
