import ScheduleShape.Affine.PointSet

set_option autoImplicit false

namespace ScheduleShape

inductive Lexeme where
  | word (text : String)
  | number (value : Nat)
  | sign (text : String)
deriving DecidableEq, Repr

namespace Lexeme

def isWordChar (c : Char) : Bool :=
  c.isAlphanum || c == '_' || c == '\''

def digitsValue (digits : List Char) : Nat :=
  digits.foldl (fun value digit => 10 * value + (digit.toNat - '0'.toNat)) 0

def ofRun (reversed : List Char) : List Lexeme :=
  let run := reversed.reverse
  let digits := run.takeWhile Char.isDigit
  let letters := run.dropWhile Char.isDigit
  (if digits.isEmpty then [] else [number (digitsValue digits)])
    ++ if letters.isEmpty then [] else [word (String.ofList letters)]

def scan : List Char → List Char → List Lexeme
  | [], run => ofRun run
  | '-' :: '>' :: rest, run => ofRun run ++ sign "->" :: scan rest []
  | '<' :: '=' :: rest, run => ofRun run ++ sign "<=" :: scan rest []
  | '>' :: '=' :: rest, run => ofRun run ++ sign ">=" :: scan rest []
  | '!' :: '=' :: rest, run => ofRun run ++ sign "!=" :: scan rest []
  | c :: rest, run =>
      if isWordChar c then scan rest (c :: run)
      else if c.isWhitespace then ofRun run ++ scan rest []
      else ofRun run ++ sign c.toString :: scan rest []

def ofText (text : String) : List Lexeme := scan text.toList []

end Lexeme

structure Quotient where
  name : String
  constant : Int
  terms : List (String × Int)
  divisor : Nat
deriving DecidableEq, Repr

structure NamedSum where
  constant : Int
  terms : List (String × Int)
  quotients : List Quotient
deriving Repr

namespace Quotient

def merge (quotients others : List Quotient) : List Quotient :=
  quotients ++ others.filter fun other => !quotients.contains other

end Quotient

namespace NamedSum

def ofConstant (constant : Int) : NamedSum := ⟨constant, [], []⟩

def ofName (name : String) : NamedSum := ⟨0, [(name, 1)], []⟩

def scale (times : Int) (sum : NamedSum) : NamedSum where
  constant := times * sum.constant
  terms := sum.terms.map fun (name, factor) => (name, times * factor)
  quotients := sum.quotients

def add (sum other : NamedSum) : NamedSum where
  constant := sum.constant + other.constant
  terms := sum.terms ++ other.terms
  quotients := Quotient.merge sum.quotients other.quotients

def sub (sum other : NamedSum) : NamedSum := sum.add (other.scale (-1))

def text (sum : NamedSum) : String :=
  AffineForm.sumText (AffineForm.constantSummand sum.constant
    ++ sum.terms.flatMap fun (name, factor) => AffineForm.nameSummand name factor)

def floor (divisor : Nat) (sum : NamedSum) : NamedSum :=
  let name := "floor((" ++ sum.text ++ ")/" ++ Value.decimal divisor ++ ")"
  ⟨0, [(name, 1)], Quotient.merge sum.quotients [⟨name, sum.constant, sum.terms, divisor⟩]⟩

def remainder (divisor : Nat) (sum : NamedSum) : NamedSum :=
  sum.sub ((sum.floor divisor).scale divisor)

def toRow? (names : List String) (sum : NamedSum) : Option Row :=
  if sum.terms.all fun term => names.contains term.1 then
    some ⟨sum.constant, names.map fun name =>
      ((sum.terms.filter fun term => term.1 == name).map (·.2)).foldl (· + ·) 0⟩
  else none

end NamedSum

def Quotient.division? (names : List String) (quotient : Quotient) : Option Division := do
  let numerator ← NamedSum.toRow? names ⟨quotient.constant, quotient.terms, []⟩
  pure ⟨numerator, quotient.divisor⟩

structure Demand where
  exact : Bool
  sum : NamedSum
deriving Repr

abbrev Alternatives := List (List Demand)

def Alternatives.both (first second : Alternatives) : Alternatives :=
  first.flatMap fun demands => second.map fun others => demands ++ others

abbrev Reader (α : Type) := List Lexeme → Option (α × List Lexeme)

namespace Reader

def remainder : NamedSum → Reader NamedSum
  | sum, .word "mod" :: .number (divisor + 1) :: rest => some (sum.remainder (divisor + 1), rest)
  | _, .word "mod" :: _ => none
  | sum, rest => some (sum, rest)

def isKeyword (name : String) : Bool :=
  name == "and" || name == "or" || name == "mod"

mutual

def summand : Nat → Reader NamedSum
  | 0, _ => none
  | fuel + 1, .number value :: .sign "*" :: rest => do
      let (sum, rest) ← summand fuel rest
      pure (sum.scale value, rest)
  | fuel + 1, .number value :: .word name :: rest =>
      if isKeyword name then some (.ofConstant value, .word name :: rest)
      else do
        let (sum, rest) ← summand fuel (.word name :: rest)
        pure (sum.scale value, rest)
  | fuel + 1, .number value :: .sign "(" :: rest => do
      let (sum, rest) ← summand fuel (.sign "(" :: rest)
      pure (sum.scale value, rest)
  | _ + 1, .number value :: rest => some (.ofConstant value, rest)
  | fuel + 1, .word "floor" :: .sign "(" :: rest => do
      match ← sum fuel rest with
      | (sum, .sign "/" :: .number (divisor + 1) :: .sign ")" :: rest) =>
          some (sum.floor (divisor + 1), rest)
      | _ => none
  | _ + 1, .word name :: rest => remainder (.ofName name) rest
  | fuel + 1, .sign "-" :: rest => do
      let (sum, rest) ← summand fuel rest
      pure (sum.scale (-1), rest)
  | fuel + 1, .sign "(" :: rest => do
      match ← sum fuel rest with
      | (sum, .sign ")" :: rest) => remainder sum rest
      | _ => none
  | _ + 1, _ => none

def sum : Nat → Reader NamedSum
  | 0, _ => none
  | fuel + 1, lexemes => do
      let (first, rest) ← summand fuel lexemes
      moreSummands fuel first rest

def moreSummands : Nat → NamedSum → Reader NamedSum
  | 0, _, _ => none
  | fuel + 1, first, .sign "+" :: rest => do
      let (second, rest) ← summand fuel rest
      moreSummands fuel (first.add second) rest
  | fuel + 1, first, .sign "-" :: rest => do
      let (second, rest) ← summand fuel rest
      moreSummands fuel (first.sub second) rest
  | _ + 1, first, rest => some (first, rest)

end

def separated {α : Type} (separator : String) (item : Reader α) : Nat → Reader (List α)
  | 0, _ => none
  | fuel + 1, lexemes => do
      match ← item lexemes with
      | (first, .sign next :: rest) =>
          if next = separator then do
            let (items, rest) ← separated separator item fuel rest
            pure (first :: items, rest)
          else pure ([first], .sign next :: rest)
      | (first, rest) => pure ([first], rest)

def comparison? (sign : String) (left right : NamedSum) : Option Alternatives :=
  let below := fun (lower upper : NamedSum) => (upper.sub lower).add (.ofConstant (-1))
  match sign with
  | "=" => some [[⟨true, left.sub right⟩]]
  | "<=" => some [[⟨false, right.sub left⟩]]
  | ">=" => some [[⟨false, left.sub right⟩]]
  | "<" => some [[⟨false, below left right⟩]]
  | ">" => some [[⟨false, below right left⟩]]
  | "!=" => some [[⟨false, below left right⟩], [⟨false, below right left⟩]]
  | _ => none

def comparisons? (sign : String) (lefts rights : List NamedSum) : Option Alternatives := do
  let all ← (lefts.flatMap fun left => rights.map fun right => (left, right)).mapM
    fun (left, right) => comparison? sign left right
  pure (all.foldl Alternatives.both [[]])

def chainAfter (fuel : Nat) (lefts : List NamedSum) : Nat → Reader Alternatives
  | 0, _ => none
  | links + 1, .sign sign :: rest => do
      let (rights, rest) ← separated "," (sum fuel) fuel rest
      let first ← comparisons? sign lefts rights
      match rest with
      | .sign next :: _ =>
          if ["=", "<=", ">=", "<", ">", "!="].contains next then do
            let (others, rest) ← chainAfter fuel rights links rest
            pure (first.both others, rest)
          else pure (first, rest)
      | _ => pure (first, rest)
  | _ + 1, _ => none

def chain (fuel : Nat) : Reader Alternatives := fun lexemes => do
  let (sums, rest) ← separated "," (sum fuel) fuel lexemes
  chainAfter fuel sums fuel rest

mutual

def clause : Nat → Reader Alternatives
  | 0, _ => none
  | _ + 1, .word "true" :: rest => some ([[]], rest)
  | _ + 1, .word "false" :: rest => some ([], rest)
  | fuel + 1, .sign "(" :: rest =>
      match condition fuel rest with
      | some (alternatives, .sign ")" :: rest) => some (alternatives, rest)
      | _ => chain fuel (.sign "(" :: rest)
  | fuel + 1, lexemes => chain fuel lexemes

def conjunction : Nat → Reader Alternatives
  | 0, _ => none
  | fuel + 1, lexemes => do
      match ← clause fuel lexemes with
      | (first, .word "and" :: rest) => do
          let (others, rest) ← conjunction fuel rest
          pure (first.both others, rest)
      | (first, rest) => pure (first, rest)

def condition : Nat → Reader Alternatives
  | 0, _ => none
  | fuel + 1, lexemes => do
      match ← conjunction fuel lexemes with
      | (first, .word "or" :: rest) => do
          let (others, rest) ← condition fuel rest
          pure (first ++ others, rest)
      | (first, rest) => pure (first, rest)

end

def optionalCondition (fuel : Nat) : Reader Alternatives
  | .sign ":" :: .sign "\x7d" :: rest => some ([[]], .sign "\x7d" :: rest)
  | .sign ":" :: rest => condition fuel rest
  | lexemes => some ([[]], lexemes)

structure Entry where
  name : String
  value : Option NamedSum

def entry (fuel : Nat) : Reader Entry
  | .word name :: .sign "=" :: rest => do
      let (value, rest) ← sum fuel rest
      pure (⟨name, some value⟩, rest)
  | lexemes => do
      let (value, rest) ← sum fuel lexemes
      match value with
      | ⟨0, [(name, 1)], []⟩ => pure (⟨name, none⟩, rest)
      | value => pure (⟨"", some value⟩, rest)

def entries (fuel : Nat) : Reader (List Entry)
  | .sign "[" :: .sign "]" :: rest => some ([], rest)
  | .sign "[" :: rest => do
      match ← separated "," (entry fuel) fuel rest with
      | (entries, .sign "]" :: rest) => some (entries, rest)
      | _ => none
  | _ => none

def tuple (fuel : Nat) : Reader (String × List Entry)
  | .word name :: rest => do
      let (entries, rest) ← entries fuel rest
      pure ((name, entries), rest)
  | lexemes => do
      let (entries, rest) ← entries fuel lexemes
      pure (("", entries), rest)

def dimensions (known : List String) : List Entry → List (String × Option NamedSum)
  | [] => []
  | ⟨name, none⟩ :: entries =>
      if known.contains name then
        ("", some (.ofName name)) :: dimensions (known ++ [""]) entries
      else (name, none) :: dimensions (known ++ [name]) entries
  | ⟨name, some value⟩ :: entries =>
      (name, some value) :: dimensions (known ++ [name]) entries

def definitions? (names : List String) (first : Nat) :
    List (String × Option NamedSum) → Option (List Row)
  | [] => some []
  | (_, none) :: dims => definitions? names (first + 1) dims
  | (_, some value) :: dims => do
      let row ← value.toRow? names
      let rows ← definitions? names (first + 1) dims
      pure ({ row with factors := row.factors.modify first (· - 1) } :: rows)

def quotients (dims : List (String × Option NamedSum)) (demands : List Demand) : List Quotient :=
  (dims.filterMap (·.2) ++ demands.map Demand.sum).foldl
    (fun quotients sum => Quotient.merge quotients sum.quotients) []

def part? (params : List String) (dims : List (String × Option NamedSum))
    (demands : List Demand) : Option Part := do
  let quotients := quotients dims demands
  let names := params ++ dims.map (·.1) ++ quotients.map Quotient.name
  let divisions ← quotients.mapM (Quotient.division? names)
  let definitions ← definitions? names params.length dims
  let equalities ← (demands.filter Demand.exact).mapM fun demand => demand.sum.toRow? names
  let inequalities ← (demands.filter fun demand => !demand.exact).mapM fun demand =>
    demand.sum.toRow? names
  pure ⟨divisions, definitions ++ equalities, inequalities⟩

def pieceOf? (params : List String) (tuples : List (String × List (String × Option NamedSum)))
    (alternatives : Alternatives) : Option Piece := do
  let dims := tuples.flatMap (·.2)
  let parts ← alternatives.mapM (part? params dims)
  pure ⟨tuples.map fun (name, dims) => ⟨name, dims.map (·.1)⟩,
    (parts.filterMap (Part.simple? (params.length + dims.length))).eraseDups⟩

def piece (fuel : Nat) (params : List String) : Reader Piece
  | .sign ":" :: rest => do
      let (alternatives, rest) ← optionalCondition fuel (.sign ":" :: rest)
      let piece ← pieceOf? params [] alternatives
      pure (piece, rest)
  | lexemes => do
      let ((name, entries), rest) ← tuple fuel lexemes
      let dims := dimensions params entries
      match rest with
      | .sign "->" :: rest => do
          let ((range, entries), rest) ← tuple fuel rest
          let rangeDims := dimensions (params ++ dims.map (·.1)) entries
          let (alternatives, rest) ← optionalCondition fuel rest
          let piece ← pieceOf? params [(name, dims), (range, rangeDims)] alternatives
          pure (piece, rest)
      | rest => do
          let (alternatives, rest) ← optionalCondition fuel rest
          let piece ← pieceOf? params [(name, dims)] alternatives
          pure (piece, rest)

def pieces (fuel : Nat) (params : List String) : Reader (List Piece)
  | .sign "\x7b" :: .sign "\x7d" :: rest => some ([], rest)
  | .sign "\x7b" :: rest => do
      match ← separated ";" (piece fuel params) fuel rest with
      | (pieces, .sign "\x7d" :: rest) => some (pieces, rest)
      | _ => none
  | _ => none

def parameters (fuel : Nat) : Reader (List String)
  | .sign "[" :: rest => do
      let (entries, rest) ← entries fuel (.sign "[" :: rest)
      match rest with
      | .sign "->" :: rest => pure (entries.map Entry.name, rest)
      | _ => none
  | lexemes => some ([], lexemes)

end Reader

def PointSet.ofText? (text : String) : Option PointSet := do
  let lexemes := Lexeme.ofText text
  let fuel := 3 * lexemes.length + 3
  let (params, rest) ← Reader.parameters fuel lexemes
  match ← Reader.pieces fuel params rest with
  | (pieces, []) => pure (.ofPieces params pieces)
  | _ => none

end ScheduleShape
