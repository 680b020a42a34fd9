import ScheduleShape.Constraint.Basic
import ScheduleShape.Event

set_option autoImplicit false

namespace ScheduleShape

variable [Affine]

def expressionsOf (access : Access) : Except Fault (Option (List Expression)) := do
  if ← Affine.isSingleValued access then
    let function ← Affine.fromMap access
    let expressions ← (List.range (Affine.arity access)).mapM (Affine.output function)
    pure (some expressions)
  else pure none

def repeatsAgree : List (Label × Expression) → List (Label × Expression) → Except Fault Bool
  | _, [] => .ok true
  | first, (label, expression) :: rest =>
      match first.lookup label with
      | some bound => do
          if ← Affine.plainEqual bound expression then repeatsAgree first rest else pure false
      | none => repeatsAgree ((label, expression) :: first) rest

inductive Verdict where
  | candidate (list : ConstraintList)
  | rejected (reason : Event)

namespace Verdict

def candidate? : Verdict → Option ConstraintList
  | candidate list => some list
  | rejected _ => none

def reason? : Verdict → Option Event
  | candidate _ => none
  | rejected reason => some reason

end Verdict

def constraintOf (binding : Label × Expression) : Constraint :=
  { label := binding.1, term := .expression binding.2 }

namespace AccessMatcher

def judge (matcher : AccessMatcher) (access : Access) : Except Fault Verdict := do
  match ← expressionsOf access with
  | none => pure (.rejected (.notFunction access))
  | some expressions =>
      let bindings := matcher.labels.zip expressions
      if ← repeatsAgree [] bindings then
        pure (.candidate (.ofConstraints expressions.length (bindings.map constraintOf)))
      else pure (.rejected (.labelsDisagree matcher.labels access))

def drawFrom (matcher : AccessMatcher) : List Access → Told (List ConstraintList)
  | [] => pure []
  | access :: accesses => do
      match ← matcher.judge access with
      | .candidate list => do
          let lists ← drawFrom matcher accesses
          pure (list :: lists)
      | .rejected reason => do
          Told.tell reason
          drawFrom matcher accesses

def draw (matcher : AccessMatcher) (relation : Relation) : Told (List ConstraintList) :=
  matcher.drawFrom (matcher.accesses relation)

def drawLast (matcher : AccessMatcher) (relation : Relation) : Told ConstraintList := do
  let lists ← matcher.draw relation
  pure (lists.getLast?.getD .empty)

end AccessMatcher

end ScheduleShape
