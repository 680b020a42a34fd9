import ScheduleShape.Affine.Library
import ScheduleShape.Value
import ScheduleShape.Value.Elements

set_option autoImplicit false

namespace ScheduleShape

def isLabelChar (c : Char) : Bool :=
  ('a' ≤ c && c ≤ 'z') || ('A' ≤ c && c ≤ 'Z') || c = '_'

def isLabelText : List Char → Bool
  | [c] => isLabelChar c
  | [c, last] => isLabelChar c && last = '\n'
  | _ => false

def Value.isLabel : Value → Bool
  | .text content => isLabelText content.toList
  | _ => false

def Value.IsLetter (value : Value) : Prop :=
  ∃ c, isLabelChar c = true ∧ value = .text (String.singleton c)

def Value.IsLetterLine (value : Value) : Prop :=
  ∃ c, isLabelChar c = true ∧ value = .text (String.singleton c ++ "\n")

def Value.Passes (value : Value) : Prop := value.IsLetter ∨ value.IsLetterLine

structure Label where
  text : String
  valid : isLabelText text.toList = true
deriving DecidableEq

def Label.asValue (label : Label) : Value := .text label.text

def Label.ofValue? : Value → Option Label
  | .text content => if valid : isLabelText content.toList then some ⟨content, valid⟩ else none
  | _ => none

theorem Label.of_value_is_some (value : Value) : (Label.ofValue? value).isSome = value.isLabel := by
  cases value with
  | text content =>
      by_cases valid : isLabelText content.toList <;> simp [ofValue?, Value.isLabel, valid]
  | _ => rfl

inductive AccessKind where
  | read
  | write
  | readAndWrite
deriving DecidableEq, Repr

namespace AccessKind

def name : AccessKind → String
  | read => "read"
  | write => "write"
  | readAndWrite => "readAndWrite"

def reads : AccessKind → Bool
  | write => false
  | _ => true

def writes : AccessKind → Bool
  | read => false
  | _ => true

end AccessKind

structure AccessMatcher where
  kind : AccessKind
  labels : List Label
  nonempty : labels ≠ []
  number : Nat
deriving DecidableEq

def labelsOfValues : List Value → Except Fault (List Label)
  | [] => .ok []
  | value :: values => match Label.ofValue? value with
    | some label => (labelsOfValues values).map (label :: ·)
    | none => .error (.notLabel value)

namespace AccessMatcher

def make (kind : AccessKind) (number : Nat) (labels : List Value) : Except Fault AccessMatcher := do
  let labels ← labelsOfValues labels
  if nonempty : labels ≠ [] then pure ⟨kind, labels, nonempty, number⟩ else .error .noLabels

def ofElements (kind : AccessKind) (number : Nat) (labels : Value) :
    Except Fault AccessMatcher := do
  make kind number (← labels.elements)

def size (matcher : AccessMatcher) : Nat := matcher.labels.length

def labelTexts (matcher : AccessMatcher) : List String :=
  matcher.labels.map Label.text

def labelAt (matcher : AccessMatcher) (position : Int) : Except Fault Label :=
  pick "tuple" matcher.labels position

def sharesLabel (matcher other : AccessMatcher) : Bool :=
  matcher.labels.any fun label => other.labels.contains label

def describe (matcher : AccessMatcher) : String :=
  matcher.kind.name ++ "(" ++ ", ".intercalate matcher.labelTexts ++ ")"

def accesses [Affine] (matcher : AccessMatcher) (relation : Relation) : List Access :=
  relation.accesses.filter fun access => Affine.arity access == matcher.size

end AccessMatcher

end ScheduleShape
