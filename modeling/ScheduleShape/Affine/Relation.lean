import ScheduleShape.Affine.Expression

set_option autoImplicit false

namespace ScheduleShape

inductive Output where
  | form (affine : AffineForm)
  | free (name : String)
deriving DecidableEq, Repr

structure Arrow where
  statement : Statement
  array : String
  outputs : List Output
deriving DecidableEq, Repr

structure BoxAccess where
  first : Arrow
  others : List Arrow
deriving DecidableEq, Repr

structure BoxUnion where
  params : List String
  accesses : List BoxAccess
deriving DecidableEq, Repr

namespace Output

def render (params dims : List String) : Output → String
  | form affine => affine.render params dims
  | free name => name

def ofName (statement : Statement) (name : String) : Output :=
  if statement.dims.contains name || statement.params.contains name then
    form (.ofTerms statement.params statement.dims 0 [(name, 1)])
  else free name

def isFree : Output → Bool
  | form _ => false
  | free _ => true

def form? : Output → Option AffineForm
  | form affine => some affine
  | free _ => none

end Output

namespace Arrow

-- The names of free coordinates do not matter, but coordinates of one name are equal. So each
-- coordinate stands beside the place where its like comes first.
def shape (outputs : List Output) : List (Option AffineForm × Nat) :=
  outputs.map fun output => (output.form?, outputs.idxOf output)

def isUniverse (arrow : Arrow) : Bool :=
  arrow.statement.ranges.all (· == .unbounded) && arrow.outputs.all Output.isFree
    && arrow.outputs.eraseDups.length == arrow.outputs.length

def sameSpaces (arrow other : Arrow) : Bool :=
  arrow.statement.name == other.statement.name
    && arrow.statement.dims.length == other.statement.dims.length
    && arrow.array == other.array && arrow.outputs.length == other.outputs.length

def same (arrow other : Arrow) : Bool :=
  arrow.statement.same other.statement && arrow.array == other.array
    && shape arrow.outputs == shape other.outputs

def text (arrow : Arrow) : String :=
  let statement := arrow.statement
  statement.tuple ++ " -> "
    ++ tupleText arrow.array (arrow.outputs.map (·.render statement.params statement.dims))
    ++ statement.conditionsText

end Arrow

namespace BoxAccess

def arrows (access : BoxAccess) : List Arrow := access.first :: access.others

def arity (access : BoxAccess) : Nat := access.first.outputs.length

def expressions? (access : BoxAccess) : Option (List BoxExpression) :=
  if access.others.isEmpty then
    access.first.outputs.mapM fun output => output.form?.map fun form =>
      ⟨access.first.statement, form⟩
  else none

def same (access other : BoxAccess) : Bool :=
  access.arrows.length == other.arrows.length
    && access.arrows.all fun arrow => other.arrows.any (·.same arrow)

-- An arrow from everything to everything takes the others in.
def unite (access : BoxAccess) (arrow : Arrow) : BoxAccess :=
  if access.first.isUniverse then access
  else if arrow.isUniverse then ⟨arrow, []⟩
  else if access.arrows.any (·.same arrow) then access
  else { access with others := access.others ++ [arrow] }

def render (access : BoxAccess) : String :=
  paramsText access.first.statement.params ++ "\x7b "
    ++ "; ".intercalate (access.arrows.map Arrow.text) ++ " \x7d"

end BoxAccess

namespace BoxUnion

def insert (arrow : Arrow) : List BoxAccess → List BoxAccess
  | [] => [⟨arrow, []⟩]
  | access :: accesses =>
      if access.first.sameSpaces arrow then access.unite arrow :: accesses
      else access :: insert arrow accesses

def ofArrows (params : List String) (arrows : List Arrow) : BoxUnion where
  params
  accesses := arrows.foldl (fun accesses arrow => insert arrow accesses) []

def render (relation : BoxUnion) : String :=
  paramsText relation.params ++ "\x7b "
    ++ "; ".intercalate ((relation.accesses.flatMap BoxAccess.arrows).map Arrow.text) ++ " \x7d"

end BoxUnion

end ScheduleShape
