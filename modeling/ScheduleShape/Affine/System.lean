import ScheduleShape.Affine.Expression

set_option autoImplicit false

namespace ScheduleShape

structure Row where
  constant : Int
  factors : List Int
deriving DecidableEq, Repr

namespace Row

def factor (row : Row) (position : Nat) : Int :=
  row.factors[position]?.getD 0

def scale (times : Int) (row : Row) : Row where
  constant := times * row.constant
  factors := row.factors.map (times * ·)

def add (row other : Row) : Row where
  constant := row.constant + other.constant
  factors := List.zipWith (· + ·) row.factors other.factors

def negate (row : Row) : Row := row.scale (-1)

def complement (row : Row) : Row where
  constant := -row.constant - 1
  factors := row.factors.map (-·)

def isConstant (row : Row) : Bool :=
  row.factors.all (· == 0)

def last? (row : Row) : Option Nat :=
  (List.range row.factors.length).findRev? fun position => row.factor position != 0

def divisor (row : Row) : Nat :=
  row.factors.foldl (fun divisor factor => Int.gcd divisor factor) 0

def tighten (row : Row) : Row :=
  if row.divisor = 0 then row
  else ⟨row.constant.fdiv row.divisor, row.factors.map (Int.fdiv · row.divisor)⟩

def reduce? (row : Row) : Option Row :=
  if row.divisor = 0 then if row.constant = 0 then some row else none
  else if row.constant % row.divisor = 0 then some row.tighten else none

-- The row without the variable of a row that is zero. A factor that is positive in the latter
-- keeps what is at least zero so.
def without (pivot : Row) (position : Nat) (row : Row) : Row :=
  (row.scale (pivot.factor position)).add (pivot.scale (-row.factor position))

def drop (row : Row) (position : Nat) : Row :=
  { row with factors := row.factors.set position 0 }

def place (position : Nat) (value : Int) (row : Row) : Row :=
  { row.drop position with constant := row.constant + row.factor position * value }

def recast (position : Nat) (multiples : List Int) (row : Row) : Row :=
  { row with
    factors := List.zipWith (fun factor multiple => factor - row.factor position * multiple)
      row.factors multiples }

def relocate (width : Nat) (places : List Nat) (row : Row) : Row :=
  { row with
    factors := (List.range width).map fun position =>
      (((places.zip row.factors).filter fun entry => entry.1 == position).map (·.2)).foldl (· + ·) 0 }

def text (names : List String) (row : Row) : String :=
  AffineForm.sumText
    (AffineForm.constantSummand row.constant ++ AffineForm.namedSummands names row.factors)

end Row

structure System where
  equalities : List Row
  inequalities : List Row
deriving DecidableEq, Repr

namespace System

def count (system : System) : Nat :=
  system.equalities.length + system.inequalities.length

def rows (system : System) : List Row :=
  system.equalities ++ system.equalities.map Row.negate ++ system.inequalities

def insertInequality (row : Row) : List Row → List Row
  | [] => [row]
  | other :: rows =>
      if other.factors = row.factors then
        { other with constant := min other.constant row.constant } :: rows
      else other :: insertInequality row rows

def opposite? (row : Row) (rows : List Row) : Option Row :=
  rows.find? fun other => other.factors == row.negate.factors && other.constant ≤ -row.constant

-- Solves equalities for their last variables, from the last variable of the space to the first.
-- There is nothing to solve for in an equality without variables.
def solveFrom : Nat → List Row → System → Option System
  | 0, pending, solved =>
      if pending.all fun row => row.constant == 0 then some solved else none
  | position + 1, pending, solved =>
      match pending.find? fun row => row.factor position != 0 with
      | none => solveFrom position pending solved
      | some row =>
          match row.reduce? with
          | none => none
          | some row =>
              let pivot := if row.factor position < 0 then row.negate else row
              let clear := fun (rows : List Row) => rows.map (pivot.without position)
              match (clear solved.equalities).mapM Row.reduce? with
              | none => none
              | some equalities =>
                  solveFrom position (clear pending)
                    ⟨pivot :: equalities, clear solved.inequalities⟩

def solve (width : Nat) (system : System) : Option System :=
  solveFrom width system.equalities ⟨[], system.inequalities⟩

def round? (solve : System → Option System) (system : System) : Option System := do
  let solved ← solve system
  let tight := solved.inequalities.map Row.tighten
  if tight.any fun row => row.isConstant && row.constant < 0 then none
  else
    let inequalities := (tight.filter fun row => !row.isConstant).foldl
      (fun rows row => insertInequality row rows) []
    pure ⟨solved.equalities, inequalities⟩

def settle? (solve : System → Option System) : Nat → System → Option System
  | 0, system => some system
  | rounds + 1, system => do
      let system ← system.round? solve
      match system.inequalities.find? fun row => (opposite? row system.inequalities).isSome with
      | none => pure system
      | some row =>
          match opposite? row system.inequalities with
          | none => pure system
          | some other =>
              if row.constant + other.constant < 0 then none
              else
                settle? solve rounds
                  ⟨system.equalities ++ [row],
                    system.inequalities.filter fun rest => rest != row && rest != other⟩

-- Each round turns some inequalities into an equality, so the inequalities bound the rounds.
def settled? (solve : System → Option System) (system : System) : Option System :=
  system.settle? solve (system.inequalities.length + 1)

def simple? (width : Nat) (system : System) : Option System :=
  system.settled? (solve width)

structure Bound where
  position : Nat
  factor : Int
  strict : Bool
  rest : Row

def Bound.subject (names : List String) (bound : Bound) : String :=
  let name := names[bound.position]?.getD ""
  if bound.factor.natAbs = 1 then name else Value.decimal bound.factor.natAbs ++ name

def bound? (row : Row) : Option Bound :=
  row.last?.map fun position =>
    let strict := row.constant == -1
    let factor := row.factor position
    let rest := (if factor < 0 then row else row.negate).drop position
    ⟨position, factor, strict, if strict then { rest with constant := 0 } else rest⟩

def Bound.isLower (bound : Bound) : Bool := 0 < bound.factor

def Bound.sign (bound : Bound) : String :=
  match bound.isLower, bound.strict with
  | true, true => " > "
  | true, false => " >= "
  | false, true => " < "
  | false, false => " <= "

def Bound.text (names : List String) (bound : Bound) : String :=
  bound.subject names ++ bound.sign ++ bound.rest.text names

def Bound.half (names : List String) (bound : Bound) : String :=
  bound.rest.text names ++ if bound.strict then " < " else " <= "

def factorsUpTo : List Int → List Int → Bool
  | factor :: factors, other :: others =>
      if factor = other then factorsUpTo factors others else factor < other
  | _, _ => true

def arranged (row other : Row) : Bool :=
  match row.last?, other.last? with
  | some position, some otherPosition =>
      let factor := row.factor position
      let otherFactor := other.factor otherPosition
      if position ≠ otherPosition then position < otherPosition
      else if factor.natAbs ≠ otherFactor.natAbs then factor.natAbs < otherFactor.natAbs
      else if factor ≠ otherFactor then otherFactor < factor
      else factorsUpTo row.factors other.factors
  | position, _ => position.isNone

def boundTexts (names : List String) : List Bound → List String
  | [] => []
  | [bound] => [bound.text names]
  | bound :: next :: bounds =>
      if bound.isLower ∧ bound.position = next.position ∧ bound.factor = -next.factor then
        (bound.half names ++ next.text names) :: boundTexts names bounds
      else bound.text names :: boundTexts names (next :: bounds)

def equalityText (names : List String) (row : Row) : Option String :=
  row.last?.map fun position =>
    let factor := row.factor position
    let rest := (if factor < 0 then row else row.negate).drop position
    Bound.subject names ⟨position, factor, false, rest⟩ ++ " = " ++ rest.text names

def definition? (system : System) (position : Nat) : Option Row :=
  (system.equalities.find? fun row =>
    row.last? == some position && (row.factor position).natAbs == 1).map fun row =>
      (if row.factor position < 0 then row else row.negate).drop position

def texts (names : List String) (first : Nat) (system : System) : List String :=
  let shown := system.equalities.filter fun row => match row.last? with
    | some position => position < first || (row.factor position).natAbs != 1
    | none => false
  shown.filterMap (equalityText names)
    ++ boundTexts names ((system.inequalities.mergeSort arranged).filterMap bound?)

end System

end ScheduleShape
