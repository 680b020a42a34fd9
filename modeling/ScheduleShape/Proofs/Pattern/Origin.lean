import ScheduleShape.Proofs.Pattern.Answers
import ScheduleShape.Proofs.Pattern.Raise

set_option autoImplicit false

namespace ScheduleShape

variable [Affine]

theorem perform_fault (tasks : Tasks) (cursor : Cursor) (undo : Undo) (memory after : Memory) (fault : Fault)
    (failed : tasks.performAt cursor undo memory = .error fault after) :
    ∃ before position task later final between, tasks = before ++ (position, task) :: later
      ∧ Tasks.performAt cursor before undo memory = .ok (true, final) between
      ∧ task.perform (cursor.descend position) final between = .error fault after := by
  induction tasks generalizing undo memory with
  | nil => cases failed
  | cons entry tasks ih =>
      obtain ⟨position, task⟩ := entry
      rw [Tasks.performAt] at failed
      rcases bind_run (task.perform (cursor.descend position) undo) _ memory
        with ⟨⟨done, further⟩, between, began, goesOn⟩ | ⟨stopped, between, began, fails⟩
      · rw [goesOn] at failed
        cases done with
        | false => cases failed
        | true =>
            obtain ⟨before, place, last, later, final, reached, rfl, performed, raised⟩ := ih further between failed
            refine ⟨(position, task) :: before, place, last, later, final, reached, rfl, ?_, raised⟩
            rw [Tasks.performAt, bind_of_ok _ _ memory between (true, further) began]
            exact performed
      · rw [fails] at failed
        cases failed
        exact ⟨[], position, task, tasks, undo, memory, rfl, rfl, began⟩

def passing (_ : List Nat) (_ : Guard) : Guard :=
  .constant (.bool true)

theorem task_passes (task : Task) (position : List Nat) (cursor : Cursor) (undo final : Undo) (memory after : Memory)
    (done : task.perform cursor undo memory = .ok (true, final) after) (other : Undo) (start : Memory) :
    ∃ further between, (task.changeGuard (passing position)).perform cursor other start
      = .ok (true, further) between := by
  cases task with
  | refuse held => cases done
  | test kind =>
      have passes := (question_ok _ undo final memory after true done).1
      exact ⟨other, start, question_given _ other start true passes⟩
  | ask guard => exact ⟨other, start, rfl⟩
  | count children =>
      have counts := (question_ok _ undo final memory after true done).1
      exact ⟨other, start, question_given _ other start true counts⟩
  | capture slot => cases slot <;> exact ⟨_, _, rfl⟩

theorem tasks_pass (tasks : Tasks) (cursor : Cursor) (undo final : Undo) (memory after : Memory)
    (done : tasks.performAt cursor undo memory = .ok (true, final) after) (other : Undo) (start : Memory) :
    ∃ further between, (tasks.changeGuards passing).performAt cursor other start = .ok (true, further) between := by
  induction tasks generalizing undo memory other start with
  | nil => exact ⟨other, start, rfl⟩
  | cons entry tasks ih =>
      obtain ⟨position, task⟩ := entry
      obtain ⟨⟨passed, undo⟩, between, first, goesOn⟩ := bind_ok _ _ memory after (true, final) done
      cases passed with
      | false => cases goesOn
      | true =>
          obtain ⟨further, reached, passes⟩ := task_passes task position _ _ undo memory between first other start
          obtain ⟨last, ended, rest⟩ := ih undo between goesOn further reached
          refine ⟨last, ended, ?_⟩
          rw [Tasks.changeGuards, List.map_cons, Tasks.performAt, bind_of_ok _ _ start reached (true, further) passes]
          exact rest

theorem task_fails (task : Task) (cursor : Cursor) (undo : Undo) (memory after : Memory) (fault : Fault)
    (unasked : task.guard? = none) (failed : task.perform cursor undo memory = .error fault after)
    (other : Undo) (start : Memory) (answer : Bool × Undo) (ended : Memory) :
    task.perform cursor other start ≠ .ok answer ended := by
  intro done
  cases task with
  | refuse held => cases done
  | test kind =>
      have given := (question_ok _ other answer.2 start ended answer.1 done).1
      cases (question_given _ undo memory answer.1 given).symm.trans failed
  | ask guard => cases unasked
  | count children =>
      have given := (question_ok _ other answer.2 start ended answer.1 done).1
      cases (question_given _ undo memory answer.1 given).symm.trans failed
  | capture slot => cases slot <;> cases failed

theorem passing_holds (tree : Tree) (rooted : Prop) (position : List Nat) (guard : Guard) :
    (passing position guard).AnswersIn tree rooted :=
  fun _ _ _ memory => ⟨true, memory, rfl⟩

mutual

theorem passing_answers (tree : Tree) (pattern : Pattern) (plain : pattern.GuardedBy fun _ => True) :
    (pattern.changeGuards passing).GuardsAnswer tree True := by
  cases pattern with
  | value held => exact plain.elim
  | node test children guard slot =>
      refine ⟨forest_passing_answers tree children 0 plain.1, ?_⟩
      intro held among
      obtain ⟨original, _, rfl⟩ := Option.map_eq_some_iff.mp among
      exact passing_holds tree True [] original

theorem forest_passing_answers (tree : Tree) (patterns : List Pattern) (index : Nat)
    (plain : Pattern.ForestGuardedBy (fun _ => True) patterns) :
    Pattern.ForestGuardedBy (Guard.AnswersIn tree True) (Pattern.forestChangeGuards index patterns passing) := by
  cases patterns with
  | nil => trivial
  | cons pattern patterns =>
      exact ⟨passing_answers tree pattern plain.1, forest_passing_answers tree patterns (index + 1) plain.2⟩

end

theorem settle_fault (lined : Run (Bool × Undo)) (memory after : Memory) (fault : Fault)
    (failed : settle lined memory = .error fault after) : lined memory = .error fault after := by
  rcases bind_run lined _ memory with ⟨⟨matched, undo⟩, between, began, goesOn⟩ | ⟨stopped, between, began, fails⟩
  · rw [settle, goesOn] at failed
    cases matched <;> cases failed
  · rw [settle, fails] at failed
    cases failed
    exact began

theorem ask_fault (guard : Guard) (cursor : Cursor) (undo : Undo) (memory after : Memory) (fault : Fault)
    (failed : (Task.ask guard).perform cursor undo memory = .error fault after) :
    guard.holds cursor memory = .error fault after := by
  rw [Task.perform] at failed
  rcases bind_run (guard.holds cursor) _ memory with ⟨answer, between, began, goesOn⟩ | ⟨stopped, between, began, fails⟩
  · rw [goesOn] at failed
    cases failed
  · rw [fails] at failed
    cases failed
    exact began

-- The task that stops a match is that of a guard: any other one would have stopped it as well if all
-- guards had passed.
theorem stopped_by_guard (pattern : Pattern) (tree : Tree) (address position : List Nat) (task : Task)
    (before later : Tasks) (final : Undo) (memory between after : Memory) (fault : Fault)
    (inside : (tree.subtreeAt address).isSome) (plain : pattern.GuardedBy fun _ => True)
    (split : pattern.tasks = before ++ (position, task) :: later)
    (done : before.performAt (.inTree tree address) [] memory = .ok (true, final) between)
    (failed : task.perform ((Cursor.inTree tree address).descend position) final between = .error fault after) :
    ∃ guard, task = .ask guard := by
  cases asked : task.guard? with
  | some guard =>
      cases task with
      | ask held => exact ⟨held, rfl⟩
      | _ => cases asked
  | none =>
      obtain ⟨further, reached, passed⟩ := tasks_pass before _ [] final memory between done [] .empty
      obtain ⟨answer, ended, answered⟩ := align_answers (pattern.changeGuards passing) address []
        (passing_answers tree pattern plain) inside (fun _ => trivial) .empty
      have unchanged : task.changeGuard (passing position) = task := by
        cases task with
        | ask held => cases asked
        | _ => rfl
      rw [align_performs, change_tasks, split, change_append, perform_onward _ _ _ _ _ _ _ passed,
        Tasks.changeGuards, List.map_cons, unchanged, Tasks.performAt] at answered
      obtain ⟨lined, onward, performed, _⟩ := bind_ok _ _ reached ended answer answered
      exact absurd performed (task_fails task _ final between after fault asked failed further reached lined onward)

/-- A fault that ends a match on a node of a tree has been raised by the guard of one of the pattern's
nodes, to which the match had got. -/
theorem fault_from_guard (pattern : Pattern) (tree : Tree) (address : List Nat) (memory after : Memory) (fault : Fault)
    (inside : (tree.subtreeAt address).isSome) (plain : pattern.GuardedBy fun _ => True)
    (failed : pattern.isMatching (.cursor (.inTree tree address)) memory = .error fault after) :
    ∃ position part guard between, (position, part) ∈ pattern.postorder ∧ part.guard? = some guard
      ∧ pattern.AsksAt (.inTree tree address) memory position between
      ∧ guard.holds ((Cursor.inTree tree address).descend position) between = .error fault after := by
  have lined : pattern.tasks.performAt (.inTree tree address) [] memory = .error fault after := by
    rw [← align_performs]
    cases pattern with
    | value held => exact plain.elim
    | node test children guard slot =>
        rw [Pattern.is_matching_reached test children guard slot _ _ rfl] at failed
        exact settle_fault _ memory after fault failed
  obtain ⟨before, position, task, later, final, between, split, done, raised⟩ :=
    perform_fault pattern.tasks _ [] memory after fault lined
  obtain ⟨guard, rfl⟩ := stopped_by_guard pattern tree address position task before later final memory between after
    fault inside plain split done raised
  obtain ⟨part, among, guarded⟩ := (asked_iff pattern position guard).mp (by simp [split])
  exact ⟨position, part, guard, between, among, guarded,
    (asks_at_iff pattern position guard before later split _ memory between).mpr ⟨final, done⟩,
    ask_fault guard _ final between after fault raised⟩

end ScheduleShape
