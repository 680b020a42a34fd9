import ScheduleShape.Pattern.Guarded
import ScheduleShape.Pattern.Position

set_option autoImplicit false

namespace ScheduleShape

variable [Affine]

inductive Task where
  | refuse (held : Value)
  | test (kind : KindTest)
  | ask (guard : Guard)
  | count (children : Nat)
  | capture (slot : Option String)

def countsTo (children : Nat) (cursor : Cursor) : Except Fault Bool :=
  if children = 0 then .ok true else cursor.childCount.map (· == children)

theorem fits_children_counts (patterns : List Pattern) (cursor : Cursor) :
    fitsChildren patterns cursor = countsTo patterns.length cursor := by
  cases patterns <;> rfl

namespace Task

def perform : Task → Cursor → Undo → Run (Bool × Undo)
  | refuse held, _, _ => throw (.noField held.typeName "node_type")
  | test kind, cursor, undo => do pure (← kind.passes cursor, undo)
  | ask guard, cursor, undo => do pure (← guard.holds cursor, undo)
  | count children, cursor, undo => do pure (← countsTo children cursor, undo)
  | capture slot, cursor, undo => do pure (true, ← ScheduleShape.capture slot cursor undo)

def guard? : Task → Option Guard
  | ask guard => some guard
  | _ => none

def slot? : Task → Option String
  | capture slot => slot
  | _ => none

def changeGuard (change : Guard → Guard) : Task → Task
  | ask guard => ask (change guard)
  | task => task

end Task

abbrev Tasks := List (List Nat × Task)

namespace Tasks

def below (index : Nat) (tasks : Tasks) : Tasks :=
  tasks.map fun entry => (index :: entry.1, entry.2)

def performAt (cursor : Cursor) : Tasks → Undo → Run (Bool × Undo)
  | [], undo => pure (true, undo)
  | (position, task) :: tasks, undo => do
      let (done, undo) ← task.perform (cursor.descend position) undo
      if done then performAt cursor tasks undo else pure (false, undo)

def changeGuards (tasks : Tasks) (change : List Nat → Guard → Guard) : Tasks :=
  tasks.map fun entry => (entry.1, entry.2.changeGuard (change entry.1))

def asked (tasks : Tasks) : List (List Nat) :=
  (tasks.filter fun entry => entry.2.guard?.isSome).map Prod.fst

def captures (tasks : Tasks) : List (List Nat × String) :=
  tasks.filterMap fun entry => entry.2.slot?.map fun slot => (entry.1, slot)

end Tasks

def Guard.tasks : Option Guard → Tasks
  | .none => []
  | .some guard => [([], .ask guard)]

mutual

def Pattern.tasks : Pattern → Tasks
  | .value held => [([], .refuse held)]
  | .node test children guard slot =>
      ([], .test test) :: (Guard.tasks guard
        ++ ([], .count children.length) :: (Pattern.forestTasks 0 children ++ [([], .capture slot)]))

def Pattern.forestTasks (index : Nat) : List Pattern → Tasks
  | [] => []
  | pattern :: patterns => pattern.tasks.below index ++ Pattern.forestTasks (index + 1) patterns

end

end ScheduleShape
