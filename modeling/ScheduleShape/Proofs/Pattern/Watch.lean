import ScheduleShape.Pattern.Watch
import ScheduleShape.Proofs.Ascending
import ScheduleShape.Proofs.Pattern.Captures
import ScheduleShape.Proofs.Pattern.Inherited
import ScheduleShape.Proofs.Pattern.Task

set_option autoImplicit false

namespace ScheduleShape

section

variable [Affine]

section

variable (watch : Watch) (cursor : Cursor)

theorem tells_nothing (positions : List (List Nat)) (matched : Prop) (unmatched : ¬ matched) :
    watch.Tells cursor positions matched [] :=
  ⟨[], positions, rfl, fun holds => absurd holds unmatched, .inl rfl⟩

theorem tells_end (matched : Prop) : watch.Tells cursor [] matched [] :=
  ⟨[], [], rfl, fun _ => rfl, .inl rfl⟩

theorem tells_refused (position : List Nat) (positions : List (List Nat)) (matched : Prop)
    (unmatched : ¬ matched) :
    watch.Tells cursor (position :: positions) matched [watch.askedAt cursor position] :=
  ⟨[], position :: positions, rfl, fun holds => absurd holds unmatched, .inr ⟨position, positions, rfl, rfl⟩⟩

theorem tells_passed (position : List Nat) (positions : List (List Nat)) (matched : Prop)
    (told : List Note) (tells : watch.Tells cursor positions matched told) :
    watch.Tells cursor (position :: positions) matched
      (watch.askedAt cursor position :: watch.passedAt cursor position :: told) := by
  obtain ⟨before, after, rfl, ended, told⟩ := tells
  refine ⟨position :: before, after, rfl, ended, ?_⟩
  rcases told with rfl | ⟨next, later, rfl, rfl⟩
  · exact .inl rfl
  · exact .inr ⟨next, later, rfl, rfl⟩

theorem tells_of_imp (positions : List (List Nat)) (matched other : Prop) (told : List Note)
    (implies : other → matched) (tells : watch.Tells cursor positions matched told) :
    watch.Tells cursor positions other told := by
  obtain ⟨before, after, split, ended, told⟩ := tells
  exact ⟨before, after, split, fun holds => ended (implies holds), told⟩

end

theorem heard_own (watch : Watch) (memory : Memory) (tag : String) (path : List Step)
    (own : watch.own tag = true) : watch.heard (memory.note tag path) = watch.heard memory ++ [(tag, path)] := by
  simp [Watch.heard, Memory.note, own]

theorem guard_told (watch : Watch) (position : List Nat) (guard : Guard) (cursor : Cursor)
    (memory : Memory) (fresh : ∀ tag ∈ guard.tags, watch.own tag = false) :
    (∃ after, (watch.guard position guard).holds cursor memory = .ok true after
      ∧ watch.heard after = watch.heard memory
        ++ [(watch.asked position, cursor.path), (watch.passed position, cursor.path)])
    ∨ (∀ after, (watch.guard position guard).holds cursor memory ≠ .ok true after)
      ∧ watch.heard (stateOf ((watch.guard position guard).holds cursor memory))
        = watch.heard memory ++ [(watch.asked position, cursor.path)] := by
  have noted := heard_own watch memory (watch.asked position) cursor.path (watch.own_asked position)
  have silent := holds_inherits (unheard_law watch) guard cursor fresh
    (memory.note (watch.asked position) cursor.path)
  rw [noted] at silent
  have unfolded : (watch.guard position guard).holds cursor memory
      = (do
          if ← guard.holds cursor then
            Guard.allHold [.noted (watch.passed position) (.test fun _ _ => .ok true)] cursor
          else pure false : Run Bool) (memory.note (watch.asked position) cursor.path) := rfl
  rw [unfolded]
  rcases bind_run (guard.holds cursor) _ (memory.note (watch.asked position) cursor.path)
    with ⟨answer, between, began, goesOn⟩ | ⟨fault, between, began, fails⟩
  · rw [began] at silent
    rw [goesOn]
    cases answer with
    | true =>
        refine .inl ⟨_, rfl, ?_⟩
        rw [heard_own watch between _ _ (watch.own_passed position)]
        rw [show watch.heard between = _ from silent]
        simp
    | false => exact .inr ⟨(fun after same => nomatch same), silent⟩
  · rw [began] at silent
    rw [fails]
    exact .inr ⟨(fun after same => nomatch same), silent⟩

def ToldBy (watch : Watch) (cursor : Cursor) (positions : List (List Nat)) (run : Run (Bool × Undo)) : Prop :=
  ∀ memory, ∃ told, watch.heard (stateOf (run memory)) = watch.heard memory ++ told
    ∧ watch.Tells cursor positions (∃ undo after, run memory = .ok (true, undo) after) told

section

variable (watch : Watch) (cursor : Cursor) (positions : List (List Nat))

theorem told_end (undo : Undo) : ToldBy watch cursor [] (pure (true, undo)) :=
  fun _ => ⟨[], (List.append_nil _).symm, tells_end watch cursor _⟩

theorem told_asked (position : List Nat) (guard : Guard) (undo : Undo) (next : Run (Bool × Undo))
    (fresh : ∀ tag ∈ guard.tags, watch.own tag = false) (later : ToldBy watch cursor positions next) :
    ToldBy watch cursor (position :: positions)
      (do if ← (watch.guard position guard).holds (cursor.descend position) then next
          else pure (false, undo)) := by
  intro memory
  rcases guard_told watch position guard (cursor.descend position) memory fresh
    with ⟨between, passed, heard⟩ | ⟨unpassed, heard⟩
  · obtain ⟨told, further, tells⟩ := later between
    rw [bind_of_ok _ _ memory between true passed]
    refine ⟨_, ?_, tells_passed watch cursor position positions _ told tells⟩
    rw [if_pos rfl, further, heard]
    simp [Watch.askedAt, Watch.passedAt]
  · refine ⟨[watch.askedAt cursor position], ?_⟩
    rcases bind_run ((watch.guard position guard).holds (cursor.descend position)) _ memory
      with ⟨answer, between, began, goesOn⟩ | ⟨fault, between, began, fails⟩
    · rw [began] at heard unpassed
      rw [goesOn]
      cases answer with
      | true => exact absurd rfl (unpassed between)
      | false => exact ⟨heard, tells_refused watch cursor position positions _ (fun ⟨_, _, same⟩ => nomatch same)⟩
    · rw [began] at heard
      rw [fails]
      exact ⟨heard, tells_refused watch cursor position positions _ (fun ⟨_, _, same⟩ => nomatch same)⟩

theorem told_unheard (run : Run (Bool × Undo)) (next : Undo → Run (Bool × Undo))
    (silent : Unheard watch run) (later : ∀ undo, ToldBy watch cursor positions (next undo)) :
    ToldBy watch cursor positions
      (do
        let (done, undo) ← run
        if done then next undo else pure (false, undo)) := by
  intro memory
  have heard := silent memory
  rcases bind_run run _ memory with ⟨⟨done, undo⟩, between, began, goesOn⟩ | ⟨fault, between, began, fails⟩
  · rw [began] at heard
    rw [goesOn]
    cases done with
    | true =>
        obtain ⟨told, further, tells⟩ := later undo between
        exact ⟨told, further.trans (congrArg (· ++ told) heard), tells⟩
    | false =>
        exact ⟨[], heard.trans (List.append_nil _).symm,
          tells_nothing watch cursor positions _ (fun ⟨_, _, same⟩ => nomatch same)⟩
  · rw [began] at heard
    rw [fails]
    exact ⟨[], heard.trans (List.append_nil _).symm,
      tells_nothing watch cursor positions _ (fun ⟨_, _, same⟩ => nomatch same)⟩

end

theorem other_task_unheard (watch : Watch) (task : Task) (cursor : Cursor) (undo : Undo)
    (silent : task.guard? = none) : Unheard watch (task.perform cursor undo) := by
  have law := unheard_law watch
  cases task with
  | refuse held => exact law.throw _
  | test kind => exact law.bind (lift_inherits law _) fun _ => law.pure _
  | ask guard => cases silent
  | count children => exact law.bind (lift_inherits law _) fun _ => law.pure _
  | capture slot => exact law.bind (law.captured slot cursor undo) fun _ => law.pure _

theorem tasks_told (watch : Watch) (cursor : Cursor) (tasks : Tasks) (undo : Undo)
    (fresh : ∀ position guard, (position, .ask guard) ∈ tasks → ∀ tag ∈ guard.tags, watch.own tag = false) :
    ToldBy watch cursor tasks.asked ((tasks.changeGuards watch.guard).performAt cursor undo) := by
  induction tasks generalizing undo with
  | nil => exact told_end watch cursor undo
  | cons entry tasks ih =>
      have later := fun undo => ih undo fun position guard among =>
        fresh position guard (List.mem_cons_of_mem entry among)
      obtain ⟨position, task⟩ := entry
      cases task with
      | ask guard =>
          have own := fresh position guard List.mem_cons_self
          rw [Tasks.changeGuards, List.map_cons, Task.changeGuard, perform_asked]
          exact told_asked watch cursor _ position guard undo _ own (later undo)
      | _ => exact told_unheard watch cursor _ _ _ (other_task_unheard watch _ _ undo rfl) later

theorem tags_gather : Gathers Guard.tags Pattern.tags Pattern.forestTags where
  here _ _ _ _ := List.subset_append_right _ _
  below _ _ _ _ := List.subset_append_left _ _
  first _ _ := List.subset_append_left _ _
  others _ _ := List.subset_append_right _ _

theorem parallel_noted {α : Type} {results : α → α → Prop} (tag : String) (path : List Step) (run other : Run α)
    (parallel : Parallel SameSlots results run other) :
    Parallel SameSlots results run (do modify (·.note tag path); other) :=
  fun memory noted same => parallel memory (noted.note tag path) same

theorem guard_parallel (watch : Watch) (position : List Nat) (guard : Guard) (cursor : Cursor) :
    Parallel SameSlots Eq (guard.holds cursor) ((watch.guard position guard).holds cursor) := by
  have alike := holds_inherits same_slots_law guard cursor fun _ _ => trivial
  rw [← bind_pure (guard.holds cursor)]
  apply parallel_noted
  apply parallel_bind alike
  rintro answer _ rfl
  cases answer with
  | true => exact parallel_noted _ _ _ _ (parallel_pure true true rfl)
  | false => exact parallel_pure false false rfl

theorem task_parallel (watch : Watch) (position : List Nat) (task : Task) (cursor : Cursor) (undo : Undo) :
    Parallel SameSlots Eq (task.perform cursor undo)
      ((task.changeGuard (watch.guard position)).perform cursor undo) := by
  have law := same_slots_law
  cases task with
  | refuse held => exact law.throw _
  | test kind => exact law.bind (lift_inherits law _) fun _ => law.pure _
  | ask guard =>
      apply parallel_bind (guard_parallel watch position guard cursor)
      rintro answer _ rfl
      exact law.pure _
  | count children => exact law.bind (lift_inherits law _) fun _ => law.pure _
  | capture slot => exact law.bind (law.captured slot cursor undo) fun _ => law.pure _

theorem tasks_parallel (watch : Watch) (cursor : Cursor) (tasks : Tasks) (undo : Undo) :
    Parallel SameSlots Eq (tasks.performAt cursor undo)
      ((tasks.changeGuards watch.guard).performAt cursor undo) := by
  induction tasks generalizing undo with
  | nil => exact parallel_pure _ _ rfl
  | cons entry tasks ih =>
      apply parallel_bind (task_parallel watch entry.1 entry.2 (cursor.descend entry.1) undo)
      rintro ⟨done, undo⟩ _ rfl
      exact parallel_ite done (ih undo) (parallel_pure _ _ rfl)

theorem settle_watched (lined watched : Run (Bool × Undo)) (parallel : Parallel SameSlots Eq lined watched) :
    Parallel SameSlots Eq (settle lined) (settle watched) := by
  have law := same_slots_law
  apply parallel_bind parallel
  rintro ⟨matched, undo⟩ _ rfl
  cases matched with
  | true => exact law.pure true
  | false => exact law.bind (law.restored undo) fun _ => law.pure false

theorem settle_heard (watch : Watch) (lined : Run (Bool × Undo)) (memory : Memory) :
    watch.heard (stateOf (settle lined memory)) = watch.heard (stateOf (lined memory)) := by
  rcases bind_run lined _ memory with ⟨⟨matched, undo⟩, between, began, goesOn⟩ | ⟨fault, between, began, fails⟩
  · rw [settle, goesOn, began]
    cases matched with
    | true => rfl
    | false => exact (unheard_law watch).restored undo between
  · rw [settle, fails, began]
    rfl

theorem match_told (watch : Watch) (pattern : Pattern) (cursor : Cursor) (memory : Memory)
    (fresh : ∀ tag ∈ pattern.tags, watch.own tag = false) :
    ∃ told, watch.heard (stateOf ((pattern.watched watch).matchAt cursor memory)) = watch.heard memory ++ told
      ∧ watch.Tells cursor pattern.guarded
        (∃ after, (pattern.watched watch).matchAt cursor memory = .ok true after) told := by
  have asked := tasks_told watch cursor pattern.tasks [] fun position guard among tag tagged =>
    fresh tag (asked_gathered tags_gather pattern position guard among tagged)
  rw [← change_tasks, tasks_asked, ← align_performs] at asked
  obtain ⟨told, heard, tells⟩ := asked memory
  refine ⟨told, (settle_heard watch _ memory).trans heard, tells_of_imp watch cursor _ _ _ told ?_ tells⟩
  rintro ⟨after, matched⟩
  obtain ⟨undo, lined⟩ := settle_true _ memory after matched
  exact ⟨undo, after, lined⟩

theorem match_watched (watch : Watch) (pattern : Pattern) (cursor : Cursor) :
    Parallel SameSlots Eq (pattern.matchAt cursor) ((pattern.watched watch).matchAt cursor) := by
  apply settle_watched
  rw [align_performs, align_performs, Pattern.watched, change_tasks]
  exact tasks_parallel watch cursor pattern.tasks []

/-- A match asks the guards of the pattern's own nodes in preorder, each at the node that it is lined up
with and only after those before it have passed; the first that does not pass is the last that is
asked, and when the match succeeds all have passed. That the guards are watched changes nothing else. -/
theorem guards_asked_in_preorder (pattern : Pattern) (watch : Watch) (target : Target) (cursor : Cursor)
    (memory : Memory) (reached : target.toCursor = .ok cursor)
    (fresh : ∀ tag ∈ pattern.tags, watch.own tag = false) :
    EndsAlike SameSlots Eq (pattern.isMatching target memory)
        ((pattern.watched watch).isMatching target memory)
      ∧ pattern.guarded.Pairwise (· < ·)
      ∧ ∃ told,
        watch.heard (stateOf ((pattern.watched watch).isMatching target memory)) = watch.heard memory ++ told
          ∧ watch.Tells cursor pattern.guarded
            (∃ after, (pattern.watched watch).isMatching target memory = .ok true after) told := by
  refine ⟨?_, pattern.guarded_ascending, ?_⟩
  · cases pattern with
    | value held => exact .error rfl
    | node test children guard slot =>
        rw [Pattern.is_matching_reached _ _ _ _ target cursor reached, Pattern.watched, Pattern.changeGuards,
          Pattern.is_matching_reached _ _ _ _ target cursor reached]
        exact match_watched watch (.node test children guard slot) cursor memory memory rfl
  · cases pattern with
    | value held => exact ⟨[], (List.append_nil _).symm, tells_end watch cursor _⟩
    | node test children guard slot =>
        rw [Pattern.watched, Pattern.changeGuards, Pattern.is_matching_reached _ _ _ _ target cursor reached]
        exact match_told watch (.node test children guard slot) cursor memory fresh

end

def askedAndPassed : Watch where
  asked _ := "asked"
  passed _ := "passed"
  own tag := tag == "asked" || tag == "passed"
  own_asked _ := rfl
  own_passed _ := rfl

def seenSequence : Pattern :=
  .node (.exactly (.group .sequence))
    [.node (.exactly (.carrier .filter)) []
        (some (.nextSibling (.node (.exactly (.carrier .mark)) []
          (some (.noted "seen" (.childCountIs (.int 1)))) (some "mark")))) none,
      .node .any [] none none,
      .node (.exactly (.carrier .mark)) [.node .any [] (some (.constant (.bool true))) none]
        (some (.childCountIs (.int 2))) none]
    (some (.noted "seen" (.childCountIs (.int 3)))) none

theorem guards_asked_in_preorder_seen_sequence :
    Target.toCursor (.cursor (.inTree filtersAndMark [0])) = .ok (.inTree filtersAndMark [0])
      ∧ (∀ tag ∈ seenSequence.tags, askedAndPassed.own tag = false)
      ∧ seenSequence.guarded = [[], [0], [2], [2, 0]]
      ∧ (EndsAlike SameSlots Eq (seenSequence.isMatching (.cursor (.inTree filtersAndMark [0])) .empty)
          ((seenSequence.watched askedAndPassed).isMatching (.cursor (.inTree filtersAndMark [0])) .empty)
        ∧ seenSequence.guarded.Pairwise (· < ·)
        ∧ ∃ told,
          askedAndPassed.heard (stateOf ((seenSequence.watched askedAndPassed).isMatching
              (.cursor (.inTree filtersAndMark [0])) .empty)) = askedAndPassed.heard .empty ++ told
            ∧ askedAndPassed.Tells (.inTree filtersAndMark [0]) seenSequence.guarded
              (∃ after, (seenSequence.watched askedAndPassed).isMatching
                (.cursor (.inTree filtersAndMark [0])) .empty = .ok true after) told)
      ∧ askedAndPassed.heard (stateOf ((seenSequence.watched askedAndPassed).isMatching
          (.cursor (.inTree filtersAndMark [0])) .empty))
        = [("asked", Cursor.stepsOf [0]), ("passed", Cursor.stepsOf [0]),
          ("asked", Cursor.stepsOf [0, 0]), ("passed", Cursor.stepsOf [0, 0]),
          ("asked", Cursor.stepsOf [0, 2])] := by
  have fresh : ∀ tag ∈ seenSequence.tags, askedAndPassed.own tag = false := by decide
  exact ⟨rfl, fresh, rfl, guards_asked_in_preorder seenSequence askedAndPassed
    (.cursor (.inTree filtersAndMark [0])) (.inTree filtersAndMark [0]) .empty rfl fresh, rfl⟩

end ScheduleShape
