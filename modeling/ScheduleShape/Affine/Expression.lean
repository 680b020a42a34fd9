import ScheduleShape.Value

set_option autoImplicit false

namespace ScheduleShape

structure AffineForm where
  constant : Int
  params : List Int
  dims : List Int
deriving DecidableEq, Repr

namespace AffineForm

def coefficient (terms : List (String × Int)) (name : String) : Int :=
  ((terms.find? fun term => term.1 == name).map (·.2)).getD 0

def ofTerms (params dims : List String) (constant : Int) (terms : List (String × Int)) :
    AffineForm where
  constant
  params := params.map (coefficient terms)
  dims := dims.map (coefficient terms)

structure Summand where
  negative : Bool
  text : String

def constantSummand (constant : Int) : List Summand :=
  if constant = 0 then [] else [⟨constant < 0, Value.decimal constant.natAbs⟩]

def nameSummand (name : String) (coefficient : Int) : List Summand :=
  if coefficient = 0 then []
  else if coefficient.natAbs = 1 then [⟨coefficient < 0, name⟩]
  else [⟨coefficient < 0, Value.decimal coefficient.natAbs ++ name⟩]

def namedSummands (names : List String) (coefficients : List Int) : List Summand :=
  (names.zip coefficients).flatMap fun (name, coefficient) => nameSummand name coefficient

def sumText : List Summand → String
  | [] => "0"
  | first :: rest =>
      (if first.negative then "-" else "") ++ first.text
        ++ String.join (rest.map fun summand =>
          (if summand.negative then " - " else " + ") ++ summand.text)

def render (params dims : List String) (form : AffineForm) : String :=
  sumText (constantSummand form.constant ++ namedSummands params form.params
    ++ namedSummands dims form.dims)

end AffineForm

inductive UpperBound where
  | upTo (number : Int)
  | under (param : String)
deriving DecidableEq, Repr

structure DimRange where
  lower : Option Int
  upper : Option UpperBound
deriving DecidableEq, Repr

structure Statement where
  params : List String
  name : String
  dims : List String
  ranges : List DimRange
deriving DecidableEq, Repr

def tupleText (name : String) (entries : List String) : String :=
  name ++ "[" ++ ", ".intercalate entries ++ "]"

def paramsText (params : List String) : String :=
  if params.isEmpty then "" else tupleText "" params ++ " -> "

namespace DimRange

def unbounded : DimRange := ⟨none, none⟩

def lowerText (lower : Int) : String :=
  if lower = 1 then "0 < " else Value.decimal lower ++ " <= "

def upperText : UpperBound → String
  | .upTo number => if number = -1 then " < 0" else " <= " ++ Value.decimal number
  | .under param => " < " ++ param

def clause (dim : String) (range : DimRange) : Option String :=
  match range.lower, range.upper with
  | none, none => none
  | some lower, none =>
      some (dim ++ if lower = 1 then " > 0" else " >= " ++ Value.decimal lower)
  | none, some upper => some (dim ++ upperText upper)
  | some lower, some upper => some (lowerText lower ++ dim ++ upperText upper)

end DimRange

namespace Statement

def tuple (statement : Statement) : String :=
  tupleText statement.name statement.dims

def conditions (statement : Statement) : List String :=
  (statement.dims.zip statement.ranges).filterMap fun (dim, range) => range.clause dim

def conditionsText (statement : Statement) : String :=
  if statement.conditions.isEmpty then "" else " : " ++ " and ".intercalate statement.conditions

def same (statement other : Statement) : Bool :=
  statement.params == other.params && statement.name == other.name
    && statement.dims.length == other.dims.length && statement.ranges == other.ranges

end Statement

structure BoxExpression where
  statement : Statement
  form : AffineForm
deriving DecidableEq, Repr

namespace BoxExpression

def agrees (expression other : BoxExpression) : Bool :=
  expression.statement.same other.statement && expression.form == other.form

def render (expression : BoxExpression) : String :=
  let statement := expression.statement
  paramsText statement.params ++ "\x7b " ++ statement.tuple ++ " -> [("
    ++ expression.form.render statement.params statement.dims ++ ")]"
    ++ statement.conditionsText ++ " \x7d"

theorem agrees_refl (expression : BoxExpression) : expression.agrees expression = true := by
  simp [agrees, Statement.same]

theorem agrees_symm {first second : BoxExpression} (agree : first.agrees second = true) :
    second.agrees first = true := by
  simp only [agrees, Statement.same, Bool.and_eq_true, beq_iff_eq] at agree ⊢
  obtain ⟨⟨⟨⟨params, name⟩, dims⟩, ranges⟩, form⟩ := agree
  exact ⟨⟨⟨⟨params.symm, name.symm⟩, dims.symm⟩, ranges.symm⟩, form.symm⟩

theorem agrees_trans {first second third : BoxExpression} (left : first.agrees second = true)
    (right : second.agrees third = true) : first.agrees third = true := by
  simp only [agrees, Statement.same, Bool.and_eq_true, beq_iff_eq] at left right ⊢
  obtain ⟨⟨⟨⟨params, name⟩, dims⟩, ranges⟩, form⟩ := left
  obtain ⟨⟨⟨⟨params', name'⟩, dims'⟩, ranges'⟩, form'⟩ := right
  exact ⟨⟨⟨⟨params.trans params', name.trans name'⟩, dims.trans dims'⟩, ranges.trans ranges'⟩,
    form.trans form'⟩

end BoxExpression

end ScheduleShape
