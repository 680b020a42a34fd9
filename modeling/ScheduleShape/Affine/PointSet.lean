import ScheduleShape.Affine.Emptiness
import ScheduleShape.Affine.Expression

set_option autoImplicit false

namespace ScheduleShape

structure Division where
  numerator : Row
  divisor : Nat
deriving DecidableEq, Repr

namespace Division

def map (change : Row → Row) (division : Division) : Division :=
  { division with numerator := change division.numerator }

def rows (position : Nat) (division : Division) : List Row :=
  let numerator := division.numerator
  let remainder : Row :=
    { numerator with factors := numerator.factors.modify position (· - division.divisor) }
  [remainder, { remainder with constant := remainder.constant - division.divisor }.complement]

end Division

structure Part where
  divisions : List Division
  system : System
deriving DecidableEq, Repr

namespace Part

def map (change : Row → Row) (part : Part) : Part where
  divisions := part.divisions.map (Division.map change)
  system := part.system.map change

def width (base : Nat) (part : Part) : Nat :=
  base + part.divisions.length

def demands (base : Nat) (part : Part) : System :=
  let definitions := part.divisions.zipIdx.flatMap fun (division, number) =>
    division.rows (base + number)
  { part.system with inequalities := part.system.inequalities ++ definitions }

def simple? (base : Nat) (part : Part) : Option Part :=
  ((part.demands base).simple? (part.width base)).map fun system => { part with system }

def isEmpty (base : Nat) (part : Part) : Bool :=
  (part.demands base).isEmpty (part.width base)

def room (base : Nat) (part : Part) : Nat :=
  part.system.count * (part.width base + 1) + part.divisions.length * (part.width base + 2)

def require (rows : List Row) (part : Part) : Part :=
  let system := part.system
  { part with system := { system with inequalities := rows ++ system.inequalities } }

def shareDivision (base width : Nat) (known : List Division × List Nat) (division : Division) :
    List Division × List Nat :=
  let (divisions, places) := known
  let moved := division.map (Row.relocate width places)
  match divisions.idxOf? moved with
  | some number => (divisions, places ++ [base + number])
  | none => (divisions ++ [moved], places ++ [base + divisions.length])

def beside (base : Nat) (part other : Part) : Part × List Row :=
  let widest := part.width base + other.divisions.length
  let widen := fun width => Row.relocate width (List.range (part.width base))
  let (divisions, places) := other.divisions.foldl (shareDivision base widest)
    (part.divisions.map (Division.map (widen widest)), List.range base)
  let width := base + divisions.length
  let narrow := fun (row : Row) => { row with factors := row.factors.take width }
  (⟨divisions.map (Division.map narrow), part.system.map (widen width)⟩,
    (other.system.map (Row.relocate width places)).rows)

def outside : List Row → Part → List Part
  | [], _ => []
  | row :: rows, part => part.require [row.complement] :: outside rows (part.require [row])

-- Whether every point of a part is a point of one of the others. One that the part does not meet
-- takes nothing from it.
def coveredBy (base : Nat) : List Part → Part → Bool
  | [], part => part.isEmpty base
  | other :: others, part =>
      let (widened, rows) := part.beside base other
      if (widened.require rows).isEmpty base then coveredBy base others part
      else (outside rows widened).all fun rest => rest.isEmpty base || coveredBy base others rest

end Part

structure Tuple where
  name : String
  dims : List String
deriving DecidableEq, Repr

structure Piece where
  tuples : List Tuple
  parts : List Part
deriving DecidableEq, Repr

structure PointSet where
  params : List String
  pieces : List Piece
deriving DecidableEq, Repr

namespace Piece

def space (piece : Piece) : List (String × Nat) :=
  piece.tuples.map fun tuple => (tuple.name, tuple.dims.length)

def sameSpace (piece other : Piece) : Bool := piece.space == other.space

def dimCount (piece : Piece) : Nat :=
  (piece.tuples.flatMap Tuple.dims).length

end Piece

namespace PointSet

def insert (piece : Piece) : List Piece → List Piece
  | [] => [piece]
  | other :: pieces =>
      if other.sameSpace piece then
        { other with
          parts := other.parts ++ piece.parts.filter fun part => !other.parts.contains part }
          :: pieces
      else other :: insert piece pieces

def ofPieces (params : List String) (pieces : List Piece) : PointSet where
  params
  pieces := pieces.foldl (fun pieces piece => insert piece pieces) []

def realign (params target : List String) (row : Row) : Row where
  constant := row.constant
  factors := (target.map fun name => match params.idxOf? name with
      | some position => row.factor position
      | none => 0) ++ row.factors.drop params.length

def partsIn (set : PointSet) (target : List String) (piece : Piece) : List Part :=
  ((set.pieces.filter piece.sameSpace).flatMap Piece.parts).map fun part =>
    part.map (realign set.params target)

def within (set other : PointSet) (params : List String) : Bool :=
  set.pieces.all fun piece =>
    let base := params.length + piece.dimCount
    (set.partsIn params piece).all fun part =>
      part.coveredBy base (other.partsIn params piece)

def same (set other : PointSet) : Bool :=
  let params := set.params ++ other.params.filter fun name => !set.params.contains name
  set.within other params && other.within set params

def sameSpaces (set other : PointSet) : Bool :=
  set.pieces.map Piece.space == other.pieces.map Piece.space

def room (set : PointSet) : Nat :=
  let parts := set.pieces.flatMap fun piece =>
    piece.parts.map (Part.room (set.params.length + piece.dimCount))
  parts.foldl (· + ·) 0

def dimName (letter : String) (name : String) (position : Nat) : String :=
  if name = "" then letter ++ Value.decimal position else name

def tupleNames (letter : String) (tuple : Tuple) : List String :=
  tuple.dims.zipIdx.map fun (name, position) => dimName letter name position

def names (params : List String) : List Tuple → List String
  | [] => params
  | tuple :: tuples => params ++ tupleNames "i" tuple ++ tuples.flatMap (tupleNames "o")

def entryText (names : List String) (system : System) (name : String) (position : Nat) : String :=
  match system.definition? position with
  | some row => (if name = "" then "" else name ++ " = ") ++ row.text names
  | none => names[position]?.getD ""

def tupleTexts (names : List String) (system : System) : Nat → List Tuple → List String
  | _, [] => []
  | first, tuple :: tuples =>
      tupleText tuple.name (tuple.dims.zipIdx.map fun (name, offset) =>
        entryText names system name (first + offset))
        :: tupleTexts names system (first + tuple.dims.length) tuples

def pieceText (params : List String) (piece : Piece) (system : System) (conditions : List String) :
    String :=
  let space := " -> ".intercalate (tupleTexts (names params piece.tuples) system params.length
    piece.tuples)
  if piece.tuples.isEmpty then " : " ++ " and ".intercalate conditions
  else if conditions.isEmpty then space
  else space ++ " : " ++ " and ".intercalate conditions

def pieceText? (params : List String) (piece : Piece) : Option String :=
  match piece.parts with
  | [] => some (pieceText params piece ⟨[], []⟩ ["false"])
  | [⟨[], system⟩] =>
      some (pieceText params piece system
        (system.texts (names params piece.tuples) params.length))
  | _ => none

def render? (united : Bool) (set : PointSet) : Option String := do
  let pieces := if united then set.pieces.filter fun piece => !piece.parts.isEmpty else set.pieces
  let texts ← pieces.mapM (pieceText? set.params)
  pure (paramsText set.params ++ "\x7b " ++ "; ".intercalate texts ++ " \x7d")

end PointSet

end ScheduleShape
