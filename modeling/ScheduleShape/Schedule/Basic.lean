import ScheduleShape.Tree.Basic

set_option autoImplicit false

namespace ScheduleShape

inductive ScheduleKind where
  | known (kind : Kind)
  | expansion
  | error
deriving DecidableEq, Repr

namespace ScheduleKind

def word : ScheduleKind → String
  | known kind => kind.word
  | expansion => "expansion"
  | error => "error"

def ofWord? (word : String) : Option ScheduleKind :=
  if word = "expansion" then some expansion
  else if word = "error" then some error
  else (Kind.ofWord? word).map known

def toKind : ScheduleKind → Except Fault Kind
  | known kind => .ok kind
  | other => .error (.unsupportedSchedule ("schedule_node_type." ++ other.word))

def kindOfValue (value : Value) : Except Fault Kind :=
  .error (.unsupportedSchedule value.display)

end ScheduleKind

def KindTest.toSchedule : KindTest → Except Fault ScheduleKind
  | .any => .error .wildcardHasNoSchedule
  | .exactly kind => .ok (.known kind)

inductive Schedule where
  | node (kind : ScheduleKind) (payload : String) (children : List Schedule)

namespace Schedule

def kind : Schedule → ScheduleKind
  | node kind _ _ => kind

def payload : Schedule → String
  | node _ payload _ => payload

def children : Schedule → List Schedule
  | node _ _ children => children

def leaf : Schedule := node (.known .leaf) "" []

def subtreeAt : Schedule → List Nat → Option Schedule
  | schedule, [] => some schedule
  | schedule, index :: address =>
      schedule.children[index]?.bind fun child => child.subtreeAt address

theorem subtree_at_append (schedule : Schedule) (first second : List Nat) :
    schedule.subtreeAt (first ++ second)
      = (schedule.subtreeAt first).bind (·.subtreeAt second) := by
  induction first generalizing schedule with
  | nil => rfl
  | cons index rest ih =>
      simp only [List.cons_append, subtreeAt]
      cases schedule.children[index]? with
      | none => rfl
      | some child => simp [ih]

section

variable [Affine]

mutual

def toTree : Schedule → Except Fault Tree
  | node kind payload children => do
      match ← kind.toKind with
      | .leaf => pure .leaf
      | .group kind => pure (.group kind (← forestToTrees children))
      | .carrier kind =>
          pure (.carrier kind (.object (Affine.payload kind payload)) (← forestToTrees children))

def forestToTrees : List Schedule → Except Fault (List Tree)
  | [] => pure []
  | schedule :: schedules => do
      let tree ← toTree schedule
      let trees ← forestToTrees schedules
      pure (tree :: trees)

end

end

end Schedule

end ScheduleShape
