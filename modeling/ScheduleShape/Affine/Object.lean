import ScheduleShape.Affine.Reading
import ScheduleShape.Fault

set_option autoImplicit false

namespace ScheduleShape

structure ScheduledPiece where
  instances : Piece
  value : Row
deriving DecidableEq, Repr

structure BandSchedule where
  params : List String
  name : String
  members : List (List ScheduledPiece)
deriving DecidableEq, Repr

namespace BandSchedule

def pieceText? (params : List String) (piece : ScheduledPiece) : Option String :=
  match piece.instances.parts with
  | [⟨[], system⟩] =>
      let names := PointSet.names params piece.instances.tuples
      let conditions := system.texts names params.length
      let space := " -> ".intercalate
        (PointSet.tupleTexts names system params.length piece.instances.tuples)
      some (space ++ " -> [(" ++ piece.value.text names ++ ")]"
        ++ if conditions.isEmpty then "" else " : " ++ " and ".intercalate conditions)
  | _ => none

def memberText? (params : List String) (pieces : List ScheduledPiece) : Option String := do
  let texts ← pieces.mapM (pieceText? params)
  pure ("\x7b " ++ "; ".intercalate texts ++ " \x7d")

def render? (schedule : BandSchedule) : Option String := do
  let texts ← schedule.members.mapM (memberText? schedule.params)
  pure (paramsText schedule.params ++ tupleText schedule.name texts)

end BandSchedule

namespace Reader

def scheduledPiece (fuel : Nat) (params : List String) : Reader ScheduledPiece := fun lexemes => do
  let ((name, entries), rest) ← tuple fuel lexemes
  match rest with
  | .sign "->" :: .sign "[" :: .sign "(" :: rest => do
      match ← sum fuel rest with
      | (value, .sign ")" :: .sign "]" :: rest) => do
          let dims := dimensions params entries
          let (alternatives, rest) ← optionalCondition fuel rest
          let instances ← pieceOf? params [(name, dims)] alternatives
          let value ← value.toRow? (params ++ dims.map (·.1))
          pure (⟨instances, value⟩, rest)
      | _ => none
  | _ => none

def member (fuel : Nat) (params : List String) : Reader (List ScheduledPiece)
  | .sign "\x7b" :: rest => do
      match ← separated ";" (scheduledPiece fuel params) fuel rest with
      | (pieces, .sign "\x7d" :: rest) => some (pieces, rest)
      | _ => none
  | _ => none

def members (fuel : Nat) (params : List String) : Reader (List (List ScheduledPiece))
  | .sign "[" :: .sign "]" :: rest => some ([], rest)
  | .sign "[" :: rest => do
      match ← separated "," (member fuel params) fuel rest with
      | (members, .sign "]" :: rest) => some (members, rest)
      | _ => none
  | _ => none

def bandSchedule (fuel : Nat) : Reader BandSchedule := fun lexemes => do
  let (params, rest) := (parameters fuel lexemes).getD ([], lexemes)
  match rest with
  | .word name :: rest => do
      let (members, rest) ← members fuel params rest
      pure (⟨params, name, members⟩, rest)
  | rest => do
      let (members, rest) ← members fuel params rest
      pure (⟨params, "", members⟩, rest)

end Reader

def BandSchedule.ofText? (text : String) : Option BandSchedule := do
  let lexemes := Lexeme.ofText text
  match ← Reader.bandSchedule (3 * lexemes.length + 3) lexemes with
  | (schedule, []) => pure schedule
  | _ => none

def Lexeme.memberCount : Nat → List Lexeme → Nat
  | _, [] => 0
  | depth, .sign "(" :: rest => memberCount (depth + 1) rest
  | depth, .sign ")" :: rest => memberCount (depth - 1) rest
  | depth, .sign "\x7b" :: rest => (if depth = 0 then 1 else 0) + memberCount depth rest
  | depth, _ :: rest => memberCount depth rest

def BandSchedule.memberCount (text : String) : Nat :=
  Lexeme.memberCount 0 (Lexeme.ofText text)

inductive AffineSort where
  | set
  | unionSet
  | unionMap
  | expressions
  | name
deriving DecidableEq, Repr

namespace AffineSort

def typeName : AffineSort → String
  | set => "Set"
  | unionSet => "UnionSet"
  | unionMap => "UnionMap"
  | expressions => "MultiUnionPwAff"
  | name => "Id"

def hasEquality : AffineSort → Bool
  | set => true
  | unionSet => true
  | unionMap => true
  | expressions => false
  | name => false

def isUnion : AffineSort → Bool
  | unionSet => true
  | unionMap => true
  | _ => false

end AffineSort

structure AffineObject where
  sort : AffineSort
  written : String
deriving DecidableEq, Repr

namespace AffineObject

def text (object : AffineObject) : String :=
  match object.sort with
  | .set => ((PointSet.ofText? object.written).bind (·.render? false)).getD object.written
  | .unionSet => ((PointSet.ofText? object.written).bind (·.render? true)).getD object.written
  | .unionMap => ((PointSet.ofText? object.written).bind (·.render? true)).getD object.written
  | .expressions => ((BandSchedule.ofText? object.written).bind (·.render?)).getD object.written
  | .name => object.written

def size (object : AffineObject) : Except Fault Nat :=
  match object.sort with
  | .set => .ok (((PointSet.ofText? object.written).map (·.room)).getD 0)
  | .expressions => .ok (BandSchedule.memberCount object.written)
  | sort => .error (.noLength sort.typeName)

def same (object other : AffineObject) : Except Fault Bool :=
  if object.sort.hasEquality then
    match PointSet.ofText? object.written, PointSet.ofText? other.written with
    | some set, some otherSet =>
        .ok (object.sort == other.sort && (object.sort.isUnion || set.sameSpaces otherSet)
          && set.same otherSet)
    | _, _ => .ok (object == other)
  else .error .noEquality

def sameAsValue (object : AffineObject) (value : Value) : Except Fault Bool :=
  if object.sort.hasEquality then .error (.noField value.typeName "get_ctx")
  else .error .noEquality

end AffineObject

end ScheduleShape
