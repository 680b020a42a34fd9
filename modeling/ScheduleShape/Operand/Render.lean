import ScheduleShape.Access.Ledger

set_option autoImplicit false

namespace ScheduleShape

namespace ConstraintList

def layout (arity : Int) (members : List String) : String :=
  "\n".intercalate
    ["\x7b",
      "Involved Dims = " ++ Value.decimal arity,
      "Constraints = " ++ (if arity == -1 then "empty"
        else "[" ++ ",".intercalate members ++ "]"),
      "\x7d"]

end ConstraintList

namespace Finder

def text : String := "<polymatch.finder.Finder object>"

end Finder

inductive Enclosing where
  | matcher (held : AccessMatcher)
  | marked (mark : Mark)
deriving DecidableEq

def enter (around : List Enclosing) : Option Mark → Option (List Enclosing)
  | none => some around
  | some mark => if .marked mark ∈ around then none else some (.marked mark :: around)

variable [Affine]

mutual

def Operand.literalWith (quote : List Enclosing → AccessMatcher → Except Fault String)
    (around : List Enclosing) : Operand → Except Fault String
  | .value held => .ok held.literal
  | .expression affine => .ok ("PwAff(\"" ++ Affine.expressionText affine ++ "\")")
  | .relation held => .ok (held.typeName ++ "(\"" ++ held.text ++ "\")")
  | .matcher held => quote around held
  | .constraint held => held.literalWith quote around
  | .constraints held => held.literalWith quote around
  | .finder _ => .ok Finder.text
  | .items mark held => match enter around (some mark) with
    | none => .ok "[...]"
    | some around => do pure (Text.bracketed (← Operand.literalsWith quote around held))

def Constraint.literalWith (quote : List Enclosing → AccessMatcher → Except Fault String)
    (around : List Enclosing) : Constraint → Except Fault String
  | ⟨label, term, mark⟩ => match enter around mark with
    | none => .ok "..."
    | some around => do
        let term ← term.literalWith quote around
        pure ("Constraint(label=" ++ Text.quoted label.text ++ ", expr=" ++ term ++ ")")

def ConstraintList.literalWith (quote : List Enclosing → AccessMatcher → Except Fault String)
    (around : List Enclosing) : ConstraintList → Except Fault String
  | ⟨arity, members, mark⟩ => match enter around mark with
    | none => .ok "..."
    | some around => do
        let members ← Operand.literalsWith quote around members
        pure ("ConstraintsList(dims_involved=" ++ Value.decimal arity ++ ", constraints="
          ++ Text.parenthesized members ++ ")")

def Operand.literalsWith (quote : List Enclosing → AccessMatcher → Except Fault String)
    (around : List Enclosing) : List Operand → Except Fault (List String)
  | [] => .ok []
  | operand :: operands => do
      let first ← operand.literalWith quote around
      let rest ← Operand.literalsWith quote around operands
      pure (first :: rest)

end

mutual

def Operand.displayWith (draw : AccessMatcher → Except Fault String)
    (quote : List Enclosing → AccessMatcher → Except Fault String) :
    Operand → Except Fault String
  | .value held => .ok held.display
  | .expression affine => .ok (Affine.expressionText affine)
  | .relation held => .ok held.text
  | .matcher held => draw held
  | .constraint held => held.displayWith draw quote
  | .constraints held => held.displayWith draw quote
  | .finder _ => .ok Finder.text
  | .items mark held => Operand.literalWith quote [] (.items mark held)

def Constraint.displayWith (draw : AccessMatcher → Except Fault String)
    (quote : List Enclosing → AccessMatcher → Except Fault String) :
    Constraint → Except Fault String
  | ⟨label, term, _⟩ => do
      let term ← term.displayWith draw quote
      pure ("(" ++ label.text ++ "," ++ term ++ ")")

def ConstraintList.displayWith (draw : AccessMatcher → Except Fault String)
    (quote : List Enclosing → AccessMatcher → Except Fault String) :
    ConstraintList → Except Fault String
  | ⟨arity, members, _⟩ =>
      if arity == -1 then .ok (ConstraintList.layout arity [])
      else do pure (ConstraintList.layout arity (← Operand.displaysWith draw quote members))

def Operand.displaysWith (draw : AccessMatcher → Except Fault String)
    (quote : List Enclosing → AccessMatcher → Except Fault String) :
    List Operand → Except Fault (List String)
  | [] => .ok []
  | operand :: operands => do
      let first ← operand.displayWith draw quote
      let rest ← Operand.displaysWith draw quote operands
      pure (first :: rest)

end

namespace AccessMatcher

def delimiter : String := "@@@@@@"

def title (matcher : AccessMatcher) : String :=
  match matcher.kind with
  | .read => "Read matcher"
  | .write => "Write matcher"
  | .readAndWrite => "Read & Write matcher"

def columnLines (matcher : AccessMatcher) (rows : List (List String)) : List String :=
  (List.range matcher.size).flatMap fun position => rows.filterMap fun row => row[position]?

def lines (matcher : AccessMatcher) (rows : List (List String)) : List String :=
  [delimiter, matcher.title] ++ matcher.labelTexts ++ matcher.columnLines rows ++ [delimiter]

def kindText (matcher : AccessMatcher) : String :=
  match matcher.kind with
  | .read => "<RelationKind.read: 0>"
  | .write => "<RelationKind.write: 1>"
  | .readAndWrite => "<RelationKind.readAndWrite: 2>"

def literalText (matcher : AccessMatcher) (rows : List (List String)) (resolved : Bool) : String :=
  "RelationMatcher(kind=" ++ matcher.kindText
    ++ ", labels=" ++ Text.parenthesized (matcher.labelTexts.map Text.quoted)
    ++ ", _bindings=" ++ Text.bracketed (rows.map Text.bracketed)
    ++ ", _is_set=" ++ (Value.bool resolved).literal ++ ")"

def literal (ledger : Ledger) :
    Nat → List Enclosing → AccessMatcher → Except Fault String
  | 0, _, _ => .error .nestedTooDeep
  | depth + 1, around, matcher =>
      if .matcher matcher ∈ around then .ok "..."
      else do
        let record := ledger.record matcher
        let rows ← record.rows.mapM
          (Operand.literalsWith (literal ledger depth) (.matcher matcher :: around))
        pure (matcher.literalText rows record.resolved)

def display (ledger : Ledger) : Nat → AccessMatcher → Except Fault String
  | 0, _ => .error .nestedTooDeep
  | depth + 1, matcher => do
      let record := ledger.record matcher
      let rows ← if record.resolved then
          record.rows.mapM (Operand.displaysWith (display ledger depth) (literal ledger depth))
        else pure []
      pure ("\n".intercalate (matcher.lines rows))

end AccessMatcher

namespace Operand

def nestingLimit : Nat := 333

def display (ledger : Ledger) (operand : Operand) : Except Fault String :=
  operand.displayWith (AccessMatcher.display ledger nestingLimit)
    (AccessMatcher.literal ledger nestingLimit)

end Operand

end ScheduleShape
