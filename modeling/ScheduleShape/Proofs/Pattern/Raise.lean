import ScheduleShape.Proofs.Ascending
import ScheduleShape.Proofs.Pattern.Captures
import ScheduleShape.Proofs.Pattern.Task

set_option autoImplicit false

namespace ScheduleShape

section

theorem precedes_below (index : Nat) (first second : List Nat) :
    Precedes (index :: first) (index :: second) ↔ Precedes first second := by
  simp [Precedes, List.cons_prefix_cons]

theorem precedes_beside (index later : Nat) (rest other : List Nat) (before : index < later) :
    Precedes (index :: rest) (later :: other) := by
  have different : index ≠ later := by omega
  simp [Precedes, List.cons_prefix_cons, List.cons_lt_cons_iff, before, different]

theorem not_precedes_beside (index later : Nat) (rest other : List Nat) (before : index < later) :
    ¬ Precedes (later :: other) (index :: rest) := by
  have unordered : ¬ later < index := by omega
  have different : later ≠ index := by omega
  simp [Precedes, List.cons_lt_cons_iff, unordered, different]

theorem not_precedes_top (position : List Nat) : ¬ Precedes position [] := by
  simp [Precedes]

theorem top_not_precedes (position : List Nat) : ¬ Precedes [] position := by
  simp [Precedes]

variable [Affine]

-- A capture that is made before a guard is asked is to the left of it, and one that is made later is not.
structure InTurn (entry later : List Nat × Task) : Prop where
  captured : entry.2.slot?.isSome → later.2.guard?.isSome → Precedes entry.1 later.1
  asked : entry.2.guard?.isSome → later.2.slot?.isSome → ¬ Precedes later.1 entry.1

theorem in_turn_idle (position : List Nat) (task : Task) (later : List Nat × Task)
    (uncaptured : task.slot? = none) (unasked : task.guard? = none) : InTurn (position, task) later :=
  ⟨by simp [uncaptured], by simp [unasked]⟩

theorem in_turn_below (index : Nat) (tasks : Tasks) (ordered : tasks.Pairwise InTurn) :
    (tasks.below index).Pairwise InTurn := by
  rw [Tasks.below, List.pairwise_map]
  refine ordered.imp fun turn => ⟨?_, ?_⟩
  · intro captures asks
    exact (precedes_below index _ _).mpr (turn.captured captures asks)
  · intro asks captures precedes
    exact turn.asked asks captures ((precedes_below index _ _).mp precedes)

theorem forest_tasks_from (patterns : List Pattern) (index : Nat) :
    From index ((Pattern.forestTasks index patterns).map Prod.fst) := by
  induction patterns generalizing index with
  | nil => exact fun _ among => nomatch among
  | cons pattern patterns ih =>
      have joined := from_join index (pattern.tasks.map Prod.fst) _ (ih (index + 1))
      simpa [Pattern.forestTasks, Tasks.below, Function.comp_def] using joined

mutual

theorem tasks_in_turn (pattern : Pattern) : pattern.tasks.Pairwise InTurn := by
  cases pattern with
  | value held => exact List.pairwise_singleton _ _
  | node test children guard slot =>
      have ended : (Pattern.forestTasks 0 children ++ [([], Task.capture slot)]).Pairwise InTurn := by
        refine List.pairwise_append.mpr ⟨forest_tasks_in_turn children 0, List.pairwise_singleton _ _, ?_⟩
        intro entry _ last among
        rw [List.mem_singleton.mp among]
        exact ⟨(fun _ same => nomatch same), fun _ _ => top_not_precedes entry.1⟩
      have counted := List.pairwise_cons.mpr
        ⟨fun later _ => in_turn_idle [] (.count children.length) later rfl rfl, ended⟩
      refine List.pairwise_cons.mpr ⟨fun later _ => in_turn_idle [] (.test test) later rfl rfl, ?_⟩
      cases guard with
      | none => exact counted
      | some guard =>
          refine List.pairwise_cons.mpr ⟨fun later _ => ?_, counted⟩
          exact ⟨(fun same => nomatch same), fun _ _ => not_precedes_top later.1⟩

theorem forest_tasks_in_turn (patterns : List Pattern) (index : Nat) :
    (Pattern.forestTasks index patterns).Pairwise InTurn := by
  cases patterns with
  | nil => exact List.Pairwise.nil
  | cons pattern patterns =>
      rw [Pattern.forestTasks, List.pairwise_append]
      refine ⟨in_turn_below index _ (tasks_in_turn pattern), forest_tasks_in_turn patterns (index + 1), ?_⟩
      intro entry here later among
      obtain ⟨entry, _, rfl⟩ := List.mem_map.mp here
      obtain ⟨past, rest, same, above⟩ := forest_tasks_from patterns (index + 1) later.1
        (List.mem_map_of_mem among)
      constructor
      · intro _ _
        rw [same]
        exact precedes_beside index past entry.1 rest above
      · intro _ _
        rw [same]
        exact not_precedes_beside index past entry.1 rest above

end

section

variable (pattern : Pattern) (position : List Nat) (guard : Guard) (before later : Tasks)
  (split : pattern.tasks = before ++ (position, .ask guard) :: later)

include split

theorem unasked_before : position ∉ before.asked := by
  intro again
  have ascending := pattern.guarded_ascending
  rw [← tasks_asked, split, asked_append, List.pairwise_append] at ascending
  have here : position ∈ Tasks.asked ((position, .ask guard) :: later) := by
    simp [Tasks.asked, Task.guard?]
  exact List.lt_irrefl position (ascending.2.2 position again position here)

theorem captured_before : before.captures = pattern.captures.filter fun entry => Precedes entry.1 position := by
  have ordered := tasks_in_turn pattern
  rw [split, List.pairwise_append, List.pairwise_cons] at ordered
  obtain ⟨_, ⟨afterwards, _⟩, across⟩ := ordered
  have skipped : Tasks.captures ((position, .ask guard) :: later) = later.captures := rfl
  have left : ∀ entry ∈ before.captures, Precedes entry.1 position := by
    intro entry among
    obtain ⟨⟨place, task⟩, within, carried⟩ := List.mem_filterMap.mp among
    obtain ⟨slot, named, rfl⟩ := Option.map_eq_some_iff.mp carried
    exact (across _ within _ List.mem_cons_self).captured (by simp [named]) rfl
  have right : ∀ entry ∈ later.captures, ¬ Precedes entry.1 position := by
    intro entry among
    obtain ⟨⟨place, task⟩, within, carried⟩ := List.mem_filterMap.mp among
    obtain ⟨slot, named, rfl⟩ := Option.map_eq_some_iff.mp carried
    exact (afterwards _ within).asked rfl (by simp [named])
  rw [← tasks_captures, split, captures_append, skipped, List.filter_append,
    List.filter_eq_self.mpr (by simpa using left), List.filter_eq_nil_iff.mpr (by simpa using right),
    List.append_nil]

end

theorem change_elsewhere (tasks : Tasks) (position : List Nat) (other : Guard)
    (unasked : position ∉ tasks.asked) :
    tasks.changeGuards (fun place guard => if place = position then other else guard) = tasks := by
  induction tasks with
  | nil => rfl
  | cons entry tasks ih =>
      obtain ⟨place, task⟩ := entry
      rw [Tasks.changeGuards, List.map_cons]
      cases task with
      | ask guard =>
          simp only [Tasks.asked, Task.guard?, List.filter_cons, Option.isSome_some, if_true, List.map_cons,
            List.mem_cons, not_or] at unasked
          rw [Task.changeGuard, if_neg fun same => unasked.1 same.symm]
          exact congrArg _ (ih unasked.2)
      | _ => exact congrArg _ (ih unasked)

section

variable (tasks others : Tasks) (cursor : Cursor) (undo final : Undo) (memory between : Memory)

theorem perform_onward (done : tasks.performAt cursor undo memory = .ok (true, final) between) :
    (tasks ++ others).performAt cursor undo memory = others.performAt cursor final between := by
  rw [perform_append, bind_of_ok _ _ memory between (true, final) done]
  rfl

theorem perform_refused (refused : tasks.performAt cursor undo memory = .ok (false, final) between) :
    (tasks ++ others).performAt cursor undo memory = .ok (false, final) between := by
  rw [perform_append, bind_of_ok _ _ memory between (false, final) refused]
  rfl

theorem perform_failed (fault : Fault) (failed : tasks.performAt cursor undo memory = .error fault between) :
    (tasks ++ others).performAt cursor undo memory = .error fault between := by
  rw [perform_append, bind_of_error _ _ memory between fault failed]

end

theorem asks_at_iff (pattern : Pattern) (position : List Nat) (guard : Guard) (before later : Tasks)
    (split : pattern.tasks = before ++ (position, .ask guard) :: later) (cursor : Cursor) (memory between : Memory) :
    pattern.AsksAt cursor memory position between
      ↔ ∃ undo, before.performAt cursor [] memory = .ok (true, undo) between := by
  have fresh := unasked_before pattern position guard before later split
  have changed : ∀ fault, (pattern.changeGuards fun place guard =>
      if place = position then .test (fun _ _ => .error fault) else guard).matchAt cursor
        = settle ((before ++ (position, .ask (.test fun _ _ => .error fault)) ::
          Tasks.changeGuards later fun place guard =>
            if place = position then .test (fun _ _ => .error fault) else guard).performAt cursor []) := by
    intro fault
    rw [Pattern.matchAt, align_performs, change_tasks, split, change_append,
      change_elsewhere before position _ fresh]
    simp [Tasks.changeGuards, Task.changeGuard]
  constructor
  · intro asked
    cases ran : before.performAt cursor [] memory with
    | ok lined reached =>
        obtain ⟨done, undo⟩ := lined
        have ends := asked .cursorOutOfRange
        rw [changed] at ends
        cases done with
        | true =>
            have onward := fun others => perform_onward before others cursor [] undo memory reached ran
            rw [settle, bind_of_error _ _ memory reached .cursorOutOfRange (onward _)] at ends
            cases ends
            exact ⟨undo, rfl⟩
        | false =>
            rw [settle, bind_of_ok _ _ memory reached (false, undo)
              (perform_refused before _ cursor [] undo memory reached ran)] at ends
            cases ends
    | error failed reached =>
        have same : ∀ fault, failed = fault := by
          intro fault
          have ends := asked fault
          rw [changed, settle, bind_of_error _ _ memory reached failed
            (perform_failed before _ cursor [] memory reached failed ran)] at ends
          cases ends
          rfl
        cases (same .cursorOutOfRange).symm.trans (same .rootHasNoIndex)
  · rintro ⟨undo, done⟩ fault
    rw [changed]
    apply bind_of_error
    rw [perform_onward before _ cursor [] undo memory between done]
    rfl

theorem task_slots (task : Task) (position : List Nat) (cursor : Cursor) (undo final : Undo) (memory after : Memory)
    (quiet : ∀ guard, task = .ask guard → guard.slots = [])
    (done : task.perform (cursor.descend position) undo memory = .ok (true, final) after) :
    after.slots = (memory.putAll cursor (Tasks.captures [(position, task)])).slots := by
  cases task with
  | refuse held => cases done
  | test kind =>
      rw [(question_ok _ undo final memory after true done).2]
      rfl
  | count children =>
      rw [(question_ok _ undo final memory after true done).2]
      rfl
  | ask guard =>
      obtain ⟨answer, between, asked, goesOn⟩ := bind_ok _ _ memory after (true, final) done
      cases goesOn
      funext slot
      have kept := holds_keeps slot guard (cursor.descend position) (by simp [quiet guard rfl]) memory
      rw [asked] at kept
      exact kept
  | capture slot =>
      cases slot <;>
      · cases done
        rfl

theorem tasks_slots (tasks : Tasks) (cursor : Cursor) (undo final : Undo) (memory after : Memory)
    (quiet : ∀ position guard, (position, .ask guard) ∈ tasks → guard.slots = [])
    (done : tasks.performAt cursor undo memory = .ok (true, final) after) :
    after.slots = (memory.putAll cursor tasks.captures).slots := by
  induction tasks generalizing undo memory with
  | nil =>
      cases done
      rfl
  | cons entry tasks ih =>
      obtain ⟨position, task⟩ := entry
      obtain ⟨⟨passed, undo⟩, between, first, goesOn⟩ := bind_ok _ _ memory after (true, final) done
      cases passed with
      | false => cases goesOn
      | true =>
          have here := task_slots task position cursor _ undo memory between
            (fun guard asks => quiet position guard (by simp [asks])) first
          have later := ih undo between (fun place guard among => quiet place guard (by simp [among])) goesOn
          have split : Tasks.captures ((position, task) :: tasks) = _ := captures_append [(position, task)] tasks
          rw [later, Memory.put_all_congr _ cursor _ _ here, split, Memory.put_all_append]

/-- A guard that raises a fault while a match asks it ends the match with this fault, and nothing is
taken back: the nodes to the left of it have been captured, in postorder, and nothing else has. -/
theorem raising_keeps_captures (pattern part : Pattern) (target : Target) (cursor : Cursor) (guard : Guard)
    (position : List Nat) (memory between after : Memory) (fault : Fault)
    (reached : target.toCursor = .ok cursor) (uncaptured : pattern.guardSlots = [])
    (among : (position, part) ∈ pattern.postorder) (guarded : part.guard? = some guard)
    (asked : pattern.AsksAt cursor memory position between)
    (raised : guard.holds (cursor.descend position) between = .error fault after) :
    pattern.isMatching target memory = .error fault after
      ∧ after.slots = (memory.putAll cursor
          (pattern.captures.filter fun entry => Precedes entry.1 position)).slots
      ∧ ∀ slot, (∀ entry ∈ pattern.captures, Precedes entry.1 position → entry.2 ≠ slot) →
          after.slots slot = memory.slots slot := by
  have asks := (asked_iff pattern position guard).mpr ⟨part, among, guarded⟩
  obtain ⟨before, later, split⟩ := List.append_of_mem asks
  obtain ⟨undo, done⟩ := (asks_at_iff pattern position guard before later split cursor memory between).mp asked
  have quiet : ∀ place held, (place, .ask held) ∈ pattern.tasks → held.slots = [] := by
    intro place held within
    have among := asked_gathered guard_slots_gather pattern place held within
    rw [uncaptured] at among
    exact List.subset_nil.mp among
  have stopped : pattern.matchAt cursor memory = .error fault after := by
    apply bind_of_error
    rw [align_performs, split, perform_onward before _ cursor [] undo memory between done, perform_asked]
    exact bind_of_error _ _ between after fault raised
  have captured : after.slots = (memory.putAll cursor
      (pattern.captures.filter fun entry => Precedes entry.1 position)).slots := by
    have onTheWay := tasks_slots before cursor [] undo memory between
      (fun place held within => quiet place held (split ▸ List.mem_append_left _ within)) done
    rw [← captured_before pattern position guard before later split, ← onTheWay]
    funext slot
    have kept := holds_keeps slot guard (cursor.descend position) (by simp [quiet position guard asks]) between
    rw [raised] at kept
    exact kept
  refine ⟨?_, captured, ?_⟩
  · cases pattern with
    | value held => simp [Pattern.tasks] at asks
    | node test children held slot =>
        rw [Pattern.is_matching_reached test children held slot target cursor reached]
        exact stopped
  · intro slot untouched
    rw [captured]
    apply Memory.put_all_other
    intro entry among
    obtain ⟨captures, precedes⟩ := List.mem_filter.mp among
    exact untouched entry captures (of_decide_eq_true precedes)

end

def noteAndRaise : Guard :=
  .all [.noted "seen" (.childCountIs (.int 1)), .raising (.text "stop")]

def raisingMark : Pattern :=
  .node (.exactly (.group .sequence))
    [.node (.exactly (.carrier .filter)) [.node .any [] none (some "inner")]
        (some (.nextSibling (.node (.exactly (.carrier .mark)) [] none none))) (some "last"),
      .node .any [] none (some "last"),
      .node (.exactly (.carrier .mark)) [.node .any [] none (some "below")] (some noteAndRaise) (some "mark")]
    none (some "whole")

theorem raising_keeps_captures_before_mark :
    ∃ between after, Target.toCursor (.cursor (.inTree filtersAndMark [0])) = .ok (.inTree filtersAndMark [0])
      ∧ raisingMark.guardSlots = []
      ∧ ([2], .node (.exactly (.carrier .mark)) [.node .any [] none (some "below")] (some noteAndRaise)
          (some "mark")) ∈ raisingMark.postorder
      ∧ raisingMark.AsksAt (.inTree filtersAndMark [0]) (Memory.empty.put "mark" (some (.startTree .leaf))) [2] between
      ∧ noteAndRaise.holds ((Cursor.inTree filtersAndMark [0]).descend [2]) between
          = .error (.raised (.text "stop")) after
      ∧ (raisingMark.captures.filter fun entry => Precedes entry.1 [2])
          = [([0, 0], "inner"), ([0], "last"), ([1], "last")]
      ∧ (raisingMark.isMatching (.cursor (.inTree filtersAndMark [0]))
            (Memory.empty.put "mark" (some (.startTree .leaf))) = .error (.raised (.text "stop")) after
        ∧ after.slots = ((Memory.empty.put "mark" (some (.startTree .leaf))).putAll (.inTree filtersAndMark [0])
            (raisingMark.captures.filter fun entry => Precedes entry.1 [2])).slots
        ∧ ∀ slot, (∀ entry ∈ raisingMark.captures, Precedes entry.1 [2] → entry.2 ≠ slot) →
            after.slots slot = (Memory.empty.put "mark" (some (.startTree .leaf))).slots slot) := by
  have among : ([2], .node (.exactly (.carrier .mark)) [.node .any [] none (some "below")] (some noteAndRaise)
      (some "mark")) ∈ raisingMark.postorder := by
    simp [raisingMark, Pattern.postorder, Pattern.forestPostorder]
  refine ⟨_, _, rfl, rfl, among, fun fault => rfl, rfl, by decide, ?_⟩
  exact raising_keeps_captures raisingMark _ (.cursor (.inTree filtersAndMark [0])) (.inTree filtersAndMark [0])
    noteAndRaise [2] _ _ _ _ rfl rfl among rfl (fun fault => rfl) rfl

end ScheduleShape
