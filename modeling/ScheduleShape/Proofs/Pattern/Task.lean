import ScheduleShape.Pattern.Task
import ScheduleShape.Proofs.Outcome

set_option autoImplicit false

namespace ScheduleShape

variable [Affine]

theorem perform_append (cursor : Cursor) (tasks others : Tasks) (undo : Undo) :
    (tasks ++ others).performAt cursor undo
      = (do
          let (done, undo) ← tasks.performAt cursor undo
          if done then others.performAt cursor undo else pure (false, undo)) := by
  induction tasks generalizing undo with
  | nil => simp [Tasks.performAt]
  | cons entry tasks ih =>
      simp only [List.cons_append, Tasks.performAt, bind_assoc]
      congr 1
      funext lined
      obtain ⟨done, undo⟩ := lined
      cases done with
      | true => simp [ih]
      | false => simp

theorem perform_below (cursor : Cursor) (index : Nat) (tasks : Tasks) (undo : Undo) :
    (tasks.below index).performAt cursor undo
      = tasks.performAt (cursor.follow (.child index)) undo := by
  induction tasks generalizing undo with
  | nil => rfl
  | cons entry tasks ih =>
      change (do
          let (done, undo) ← entry.2.perform (cursor.descend (index :: entry.1)) undo
          if done then (Tasks.below index tasks).performAt cursor undo else pure (false, undo)) = _
      simp only [ih]
      rfl

theorem question_given (question : Except Fault Bool) (undo : Undo) (memory : Memory) (answer : Bool)
    (given : question = .ok answer) :
    (do pure (← question, undo) : Run (Bool × Undo)) memory = .ok (answer, undo) memory := by
  rw [given]
  rfl

theorem question_ok (question : Except Fault Bool) (undo final : Undo) (memory after : Memory) (answer : Bool)
    (ended : (do pure (← question, undo) : Run (Bool × Undo)) memory = .ok (answer, final) after) :
    question = .ok answer ∧ after = memory := by
  cases question with
  | ok found =>
      cases ended
      exact ⟨rfl, rfl⟩
  | error fault => cases ended

theorem perform_question (question : Run Bool) (undo : Undo) (next : Undo → Run (Bool × Undo)) :
    (do
        let (done, undo) ← (do pure (← question, undo) : Run (Bool × Undo))
        if done then next undo else pure (false, undo))
      = (do if ← question then next undo else pure (false, undo)) := by
  simp

theorem perform_asked (cursor : Cursor) (position : List Nat) (guard : Guard) (tasks : Tasks) (undo : Undo) :
    Tasks.performAt cursor ((position, .ask guard) :: tasks) undo
      = (do
          if ← guard.holds (cursor.descend position) then tasks.performAt cursor undo
          else pure (false, undo)) :=
  perform_question (guard.holds (cursor.descend position)) undo (tasks.performAt cursor)

theorem perform_guard (cursor : Cursor) (guard : Option Guard) (tasks : Tasks) (undo : Undo) :
    (Guard.tasks guard ++ tasks).performAt cursor undo
      = (do if ← Guard.admits guard cursor then tasks.performAt cursor undo else pure (false, undo)) := by
  cases guard with
  | none => simp [Guard.tasks, Guard.admits]
  | some guard => exact perform_asked cursor [] guard tasks undo

theorem perform_count (cursor : Cursor) (children : List Pattern) (tasks : Tasks) (undo : Undo) :
    Tasks.performAt cursor (([], .count children.length) :: tasks) undo
      = (do if ← fitsChildren children cursor then tasks.performAt cursor undo else pure (false, undo)) := by
  rw [fits_children_counts]
  exact perform_question (liftM (countsTo children.length cursor)) undo (tasks.performAt cursor)

theorem perform_test (cursor : Cursor) (test : KindTest) (tasks : Tasks) (undo : Undo) :
    Tasks.performAt cursor (([], .test test) :: tasks) undo
      = (do if ← test.passes cursor then tasks.performAt cursor undo else pure (false, undo)) :=
  perform_question (liftM (test.passes cursor)) undo (tasks.performAt cursor)

theorem perform_capture (cursor : Cursor) (slot : Option String) (undo : Undo) :
    Tasks.performAt cursor [([], .capture slot)] undo = (do pure (true, ← capture slot cursor undo)) := by
  cases slot <;> rfl

mutual

theorem align_performs (pattern : Pattern) (cursor : Cursor) (undo : Undo) :
    pattern.align cursor undo = pattern.tasks.performAt cursor undo := by
  cases pattern with
  | value held => rfl
  | node test children guard slot =>
      rw [Pattern.align, Pattern.tasks, perform_test, perform_guard, perform_count, perform_append]
      simp only [perform_capture, align_forest_performs children cursor 0]

theorem align_forest_performs (patterns : List Pattern) (cursor : Cursor) (index : Nat) (undo : Undo) :
    Pattern.alignForest patterns cursor index undo
      = (Pattern.forestTasks index patterns).performAt cursor undo := by
  cases patterns with
  | nil => rfl
  | cons pattern patterns =>
      rw [Pattern.alignForest, Pattern.forestTasks, perform_append, perform_below,
        align_performs pattern (cursor.follow (.child index)) undo]
      simp only [align_forest_performs patterns cursor (index + 1)]

end

@[simp]
theorem asked_append (tasks others : Tasks) : (tasks ++ others).asked = tasks.asked ++ others.asked := by
  simp [Tasks.asked]

@[simp]
theorem asked_below (index : Nat) (tasks : Tasks) :
    (tasks.below index).asked = tasks.asked.map (index :: ·) := by
  simp [Tasks.asked, Tasks.below, List.filter_map, Function.comp_def]

@[simp]
theorem captures_append (tasks others : Tasks) :
    (tasks ++ others).captures = tasks.captures ++ others.captures := by
  simp [Tasks.captures]

@[simp]
theorem captures_below_tasks (index : Nat) (tasks : Tasks) :
    (tasks.below index).captures = tasks.captures.map fun entry => (index :: entry.1, entry.2) := by
  simp [Tasks.captures, Tasks.below, List.filterMap_map, List.map_filterMap, Function.comp_def]

theorem node_tasks_asked (test : KindTest) (children : List Pattern) (guard : Option Guard)
    (slot : Option String) :
    (Pattern.node test children guard slot).tasks.asked
      = (Guard.tasks guard).asked ++ (Pattern.forestTasks 0 children).asked := by
  simp [Pattern.tasks, Tasks.asked, Task.guard?]

theorem node_tasks_captures (test : KindTest) (children : List Pattern) (guard : Option Guard)
    (slot : Option String) :
    (Pattern.node test children guard slot).tasks.captures
      = (Pattern.forestTasks 0 children).captures ++ Tasks.captures [([], .capture slot)] := by
  cases guard <;> simp [Pattern.tasks, Guard.tasks, Tasks.captures, Task.slot?, List.filterMap_cons]

mutual

@[simp]
theorem tasks_asked (pattern : Pattern) : pattern.tasks.asked = pattern.guarded := by
  cases pattern with
  | value held => rfl
  | node test children guard slot =>
      rw [node_tasks_asked, forest_tasks_asked children 0]
      cases guard <;> rfl

@[simp]
theorem forest_tasks_asked (patterns : List Pattern) (index : Nat) :
    (Pattern.forestTasks index patterns).asked
      = ((Pattern.forestPreorder index patterns).filter fun entry => entry.2.guard?.isSome).map Prod.fst := by
  cases patterns with
  | nil => rfl
  | cons pattern patterns =>
      rw [Pattern.forestTasks, asked_append, asked_below, tasks_asked pattern,
        forest_tasks_asked patterns (index + 1), Pattern.forestPreorder]
      simp [Pattern.guarded, List.filter_map, Function.comp_def]

end

mutual

@[simp]
theorem tasks_captures (pattern : Pattern) : pattern.tasks.captures = pattern.captures := by
  cases pattern with
  | value held => rfl
  | node test children guard slot =>
      rw [node_tasks_captures, forest_tasks_captures children 0, Pattern.captures, Pattern.postorder,
        List.filterMap_append]
      rfl

@[simp]
theorem forest_tasks_captures (patterns : List Pattern) (index : Nat) :
    (Pattern.forestTasks index patterns).captures
      = (Pattern.forestPostorder index patterns).filterMap fun entry =>
          entry.2.slot?.map fun slot => (entry.1, slot) := by
  cases patterns with
  | nil => rfl
  | cons pattern patterns =>
      rw [Pattern.forestTasks, captures_append, captures_below_tasks, tasks_captures pattern,
        forest_tasks_captures patterns (index + 1), Pattern.forestPostorder]
      simp [Pattern.captures, List.filterMap_map, List.map_filterMap, Function.comp_def]

end

theorem forest_change_length (patterns : List Pattern) (index : Nat) (change : List Nat → Guard → Guard) :
    (Pattern.forestChangeGuards index patterns change).length = patterns.length := by
  induction patterns generalizing index with
  | nil => rfl
  | cons pattern patterns ih => simp [Pattern.forestChangeGuards, ih]

theorem change_below (index : Nat) (tasks : Tasks) (change : List Nat → Guard → Guard) :
    (tasks.below index).changeGuards change
      = (tasks.changeGuards fun position => change (index :: position)).below index := by
  simp [Tasks.changeGuards, Tasks.below, Function.comp_def]

@[simp]
theorem change_append (tasks others : Tasks) (change : List Nat → Guard → Guard) :
    (tasks ++ others).changeGuards change = tasks.changeGuards change ++ others.changeGuards change :=
  List.map_append

mutual

theorem change_tasks (pattern : Pattern) (change : List Nat → Guard → Guard) :
    (pattern.changeGuards change).tasks = pattern.tasks.changeGuards change := by
  cases pattern with
  | value held => rfl
  | node test children guard slot =>
      have below := forest_change_tasks children 0 change
      rw [Pattern.changeGuards, Pattern.tasks, below, forest_change_length]
      cases guard <;> simp [Pattern.tasks, Guard.tasks, Tasks.changeGuards, Task.changeGuard]

theorem forest_change_tasks (patterns : List Pattern) (index : Nat) (change : List Nat → Guard → Guard) :
    Pattern.forestTasks index (Pattern.forestChangeGuards index patterns change)
      = (Pattern.forestTasks index patterns).changeGuards change := by
  cases patterns with
  | nil => rfl
  | cons pattern patterns =>
      rw [Pattern.forestChangeGuards, Pattern.forestTasks, Pattern.forestTasks, change_append, change_below,
        change_tasks pattern, forest_change_tasks patterns (index + 1) change]

end

structure Gathers {α : Type} (of : Guard → List α) (all : Pattern → List α) (forest : List Pattern → List α) :
    Prop where
  here (test : KindTest) (children : List Pattern) (guard : Guard) (slot : Option String) :
    of guard ⊆ all (.node test children (some guard) slot)
  below (test : KindTest) (children : List Pattern) (guard : Option Guard) (slot : Option String) :
    forest children ⊆ all (.node test children guard slot)
  first (pattern : Pattern) (patterns : List Pattern) : all pattern ⊆ forest (pattern :: patterns)
  others (pattern : Pattern) (patterns : List Pattern) : forest patterns ⊆ forest (pattern :: patterns)

section

variable {α : Type} {of : Guard → List α} {all : Pattern → List α} {forest : List Pattern → List α}
  (gathers : Gathers of all forest)

include gathers

mutual

theorem asked_gathered (pattern : Pattern) (position : List Nat) (guard : Guard)
    (asked : (position, .ask guard) ∈ pattern.tasks) : of guard ⊆ all pattern := by
  cases pattern with
  | value held => simp [Pattern.tasks] at asked
  | node test children held slot =>
      simp only [Pattern.tasks, List.mem_cons, List.mem_append, List.not_mem_nil, or_false, Prod.mk.injEq,
        reduceCtorEq, and_false, false_or] at asked
      rcases asked with here | below
      · cases held with
        | none => cases here
        | some held =>
            simp only [Guard.tasks, List.mem_singleton, Prod.mk.injEq, Task.ask.injEq] at here
            rw [here.2]
            exact gathers.here test children held slot
      · exact List.Subset.trans (forest_asked_gathered children 0 position guard below)
          (gathers.below test children held slot)

theorem forest_asked_gathered (patterns : List Pattern) (index : Nat) (position : List Nat) (guard : Guard)
    (asked : (position, .ask guard) ∈ Pattern.forestTasks index patterns) : of guard ⊆ forest patterns := by
  cases patterns with
  | nil => cases asked
  | cons pattern patterns =>
      rw [Pattern.forestTasks, List.mem_append] at asked
      rcases asked with first | later
      · obtain ⟨⟨rest, task⟩, within, same⟩ := List.mem_map.mp first
        cases same
        exact List.Subset.trans (asked_gathered pattern rest guard within) (gathers.first pattern patterns)
      · exact List.Subset.trans (forest_asked_gathered patterns (index + 1) position guard later)
          (gathers.others pattern patterns)

end

end

theorem guard_slots_gather : Gathers Guard.slots Pattern.guardSlots Pattern.forestGuardSlots where
  here _ _ _ _ := List.subset_append_right _ _
  below _ _ _ _ := List.subset_append_left _ _
  first _ _ := List.subset_append_left _ _
  others _ _ := List.subset_append_right _ _

mutual

theorem asked_iff (pattern : Pattern) (position : List Nat) (guard : Guard) :
    (position, .ask guard) ∈ pattern.tasks
      ↔ ∃ part, (position, part) ∈ pattern.postorder ∧ part.guard? = some guard := by
  cases pattern with
  | value held => simp [Pattern.tasks, Pattern.postorder, Pattern.guard?]
  | node test children held slot =>
      have below := forest_asked_iff children 0 position guard
      have here : (position, .ask guard) ∈ Guard.tasks held ↔ position = [] ∧ held = some guard := by
        cases held with
        | none => simp [Guard.tasks]
        | some held => simp [Guard.tasks, eq_comm]
      simp only [Pattern.tasks, Pattern.postorder, List.mem_cons, List.mem_append, List.not_mem_nil, or_false,
        Prod.mk.injEq, reduceCtorEq, and_false, false_or, below, here]
      simp [or_and_right, exists_or, and_assoc, Pattern.guard?, or_comm]

theorem forest_asked_iff (patterns : List Pattern) (index : Nat) (position : List Nat) (guard : Guard) :
    (position, .ask guard) ∈ Pattern.forestTasks index patterns
      ↔ ∃ part, (position, part) ∈ Pattern.forestPostorder index patterns ∧ part.guard? = some guard := by
  cases patterns with
  | nil => simp [Pattern.forestTasks, Pattern.forestPostorder]
  | cons pattern patterns =>
      have later := forest_asked_iff patterns (index + 1) position guard
      have first : (position, .ask guard) ∈ pattern.tasks.below index
          ↔ ∃ part, (position, part) ∈ pattern.postorder.map (fun entry => (index :: entry.1, entry.2))
            ∧ part.guard? = some guard := by
        cases position with
        | nil => simp [Tasks.below]
        | cons place rest =>
            have within := asked_iff pattern rest guard
            by_cases same : index = place
            · simp [Tasks.below, same, within]
            · simp [Tasks.below, same]
      rw [Pattern.forestTasks, Pattern.forestPostorder, List.mem_append, first, later]
      simp [or_and_right, exists_or]

end

end ScheduleShape
