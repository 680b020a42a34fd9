import ScheduleShape.Affine.System

set_option autoImplicit false

namespace ScheduleShape

structure Line where
  unknown : Nat
  constant : Rat
  factors : List Rat
deriving DecidableEq, Repr

namespace Line

def factor (line : Line) (position : Nat) : Rat :=
  line.factors[position]?.getD 0

def solvedFor (unknown position : Nat) (line : Line) : Line :=
  let factor := line.factor position
  ⟨unknown, -line.constant / factor,
    (line.factors.map fun other => -other / factor).set position (1 / factor)⟩

def putIn (line : Line) (position : Nat) (solved : Line) : Line :=
  let factor := line.factor position
  ⟨line.unknown, line.constant + factor * solved.constant,
    List.zipWith (fun own other => own + factor * other)
      (line.factors.set position 0) solved.factors⟩

end Line

structure Tableau where
  width : Nat
  columns : List Nat
  lines : List Line
deriving Repr

namespace Tableau

def ofRows (width : Nat) (rows : List Row) : Tableau where
  width
  columns := List.range width
  lines := rows.zipIdx.map fun (row, number) =>
    ⟨width + number, row.constant, (List.range width).map fun position => row.factor position⟩

-- The first of some things by number. Taking it every time keeps exchanges from going round.
def leastBy {α : Type} (number : α → Nat) (things : List α) : Option α :=
  things.foldl (fun least? thing =>
    match least? with
    | none => some thing
    | some least => if number thing < number least then some thing else some least) none

def belowZero? (tableau : Tableau) : Option Line :=
  leastBy Line.unknown (tableau.lines.filter fun line =>
    tableau.width ≤ line.unknown && line.constant < 0)

def growth? (tableau : Tableau) (line : Line) : Option (Nat × Nat) :=
  leastBy (·.1) (tableau.columns.zipIdx.filter fun (unknown, position) =>
    0 < line.factor position || unknown < tableau.width && line.factor position < 0)

def exchange (tableau : Tableau) (line : Line) (unknown position : Nat) : Tableau :=
  let solved := line.solvedFor unknown position
  { tableau with
    columns := tableau.columns.set position line.unknown
    lines := tableau.lines.map fun other =>
      if other.unknown = line.unknown then solved else other.putIn position solved }

-- The tableau at a point where nothing is below zero that must not be. When the exchanges run out
-- it is taken as it is.
def settle? : Nat → Tableau → Option Tableau
  | 0, tableau => some tableau
  | exchanges + 1, tableau =>
      match tableau.belowZero? with
      | none => some tableau
      | some line =>
          match tableau.growth? line with
          | none => none
          | some (unknown, position) => settle? exchanges (tableau.exchange line unknown position)

def settled? (tableau : Tableau) : Option Tableau := tableau.settle? 1000

def value (tableau : Tableau) (unknown : Nat) : Rat :=
  ((tableau.lines.find? fun line => line.unknown == unknown).map Line.constant).getD 0

def broken? (tableau : Tableau) : Option Line :=
  leastBy Line.unknown (tableau.lines.filter fun line =>
    line.unknown < tableau.width && line.constant.den != 1)

def fresh (tableau : Tableau) : Nat :=
  tableau.columns.length + tableau.lines.length

def split (tableau : Tableau) (line : Line) : List Tableau :=
  let floor : Rat := line.constant.floor
  let below := ⟨tableau.fresh, floor - line.constant, line.factors.map (-·)⟩
  let above := ⟨tableau.fresh, line.constant - (floor + 1), line.factors⟩
  [below, above].map fun line => { tableau with lines := tableau.lines ++ [line] }

def anyPoint : Nat → List Tableau → Bool
  | 0, _ => true
  | _ + 1, [] => false
  | steps + 1, tableau :: tableaux =>
      match tableau.settled? with
      | none => anyPoint steps tableaux
      | some tableau =>
          match tableau.broken? with
          | none => true
          | some line => anyPoint steps (tableau.split line ++ tableaux)

end Tableau

namespace Row

def weight (row : Row) : Nat :=
  (row.factors.map Int.natAbs).foldl (· + ·) 0

def pivot? (settled : List Nat) (row : Row) : Option Nat :=
  (Tableau.leastBy (fun entry => entry.1.natAbs) (row.factors.zipIdx.filter fun entry =>
    entry.1 != 0 && !settled.contains entry.2)).map (·.2)

def multiples (settled : List Nat) (position : Nat) (row : Row) : List Int :=
  row.factors.zipIdx.map fun (factor, other) =>
    if other = position ∨ settled.contains other then 0 else factor.fdiv (row.factor position)

end Row

namespace System

def map (change : Row → Row) (system : System) : System where
  equalities := system.equalities.map change
  inequalities := system.inequalities.map change

-- Recasts variables until a row has at most one factor apart from the settled positions. The
-- smallest factor divides the others and leaves remainders, so the weight of the row falls.
def isolate (settled : List Nat) : Nat → Row → System → Row × System
  | 0, row, system => (row, system)
  | weight + 1, row, system =>
      match row.pivot? settled with
      | none => (row, system)
      | some position =>
          let multiples := row.multiples settled position
          if multiples.all (· == 0) then (row, system)
          else
            isolate settled weight (row.recast position multiples)
              (system.map (Row.recast position multiples))

def resolve? (row : Row) (system : System) : Option System :=
  let (row, system) := isolate [] row.weight row system
  match row.pivot? [] with
  | none => if row.constant = 0 then some system else none
  | some position =>
      let factor := row.factor position
      if row.constant % factor = 0 then
        some (system.map (Row.place position (-row.constant / factor)))
      else none

def resolveFirst? : Nat → System → Option System
  | count + 1, ⟨row :: equalities, inequalities⟩ => do
      resolveFirst? count (← resolve? row ⟨equalities, inequalities⟩)
  | _, system => some system

def resolved? (system : System) : Option System :=
  resolveFirst? system.equalities.length system

-- Leaves out the rows that grow in a direction in which no row falls: far enough in it they hold.
-- Each time one of them goes.
def bounding (width : Nat) : Nat → List Row → List Row
  | 0, rows => rows
  | count + 1, rows =>
      let slopes := rows.map fun row => { row with constant := 0 }
      let growth : Row :=
        ⟨-1, (List.range width).map fun position => (rows.map (Row.factor · position)).foldl (· + ·) 0⟩
      match (Tableau.ofRows width (slopes ++ [growth])).settled? with
      | none => rows
      | some direction =>
          bounding width count ((rows.zipIdx.filter fun (_, number) =>
            direction.value (width + number) == 0).map (·.1))

def triangular (system : System) : System :=
  ((List.range system.inequalities.length).foldl (fun (system, settled) number =>
    match system.inequalities[number]? with
    | none => (system, settled)
    | some row =>
        let (row, system) := isolate settled row.weight row system
        (system, (row.pivot? settled).toList ++ settled)) (system, [])).1

def isEmpty (width : Nat) (system : System) : Bool :=
  match system.settled? resolved? with
  | none => true
  | some system =>
      let bounding := (bounding width system.rows.length system.rows).mergeSort
        fun row other => row.weight ≤ other.weight
      !Tableau.anyPoint 300 [.ofRows width (triangular ⟨[], bounding⟩).inequalities]

end System

end ScheduleShape
