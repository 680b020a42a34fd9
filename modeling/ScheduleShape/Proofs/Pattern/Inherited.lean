import ScheduleShape.Pattern.Watch
import ScheduleShape.Proofs.Outcome
import ScheduleShape.Proofs.Pattern.Frame

set_option autoImplicit false

namespace ScheduleShape

variable [Affine]

variable {α : Type}

structure Inherited (has : (α : Type) → Run α → Prop) (tags : String → Prop) : Prop where
  pure {α : Type} (result : α) : has α (pure result)
  throw {α : Type} (fault : Fault) : has α (throw fault)
  bind {α β : Type} {run : Run α} {next : α → Run β} (first : has α run)
    (second : ∀ result, has β (next result)) : has β (run >>= next)
  asked (ask : NodeTest) (cursor : Cursor) :
    has Bool (do let memory ← get; ask cursor memory.slots)
  captured (slot : Option String) (cursor : Cursor) (undo : Undo) : has Undo (capture slot cursor undo)
  restored (undo : Undo) : has Unit (modify undo.restore)
  noted (tag : String) (path : List Step) (among : tags tag) : has Unit (modify (·.note tag path))

section

variable {has : (α : Type) → Run α → Prop} {tags : String → Prop} (law : Inherited has tags)

include law

theorem lift_inherits (answer : Except Fault α) : has α (liftM answer) := by
  cases answer with
  | ok result => exact law.pure result
  | error fault => exact law.throw fault

theorem choice_inherits (question : Run Bool) (yes no : Run α) (first : has Bool question)
    (second : has α yes) (third : has α no) : has α (do if ← question then yes else no) := by
  apply law.bind first
  intro answer
  cases answer <;> assumption

theorem settle_inherits (lined : Run (Bool × Undo)) (first : has (Bool × Undo) lined) :
    has Bool (settle lined) := by
  apply law.bind first
  rintro ⟨matched, undo⟩
  cases matched with
  | true => exact law.pure true
  | false => exact law.bind (law.restored undo) fun _ => law.pure false

theorem first_passes_inherits (passes : Cursor → Run Bool) (each : ∀ cursor, has Bool (passes cursor))
    (cursors : List Cursor) : has Bool (firstPasses passes cursors) := by
  induction cursors with
  | nil => exact law.pure false
  | cons cursor cursors ih => exact choice_inherits law _ _ _ (each cursor) (law.pure true) ih

theorem some_relative_inherits (relatives : Except Fault (List Cursor)) (passes : Cursor → Run Bool)
    (each : ∀ cursor, has Bool (passes cursor)) :
    has Bool (do firstPasses passes (← relatives) : Run Bool) :=
  law.bind (lift_inherits law relatives) (first_passes_inherits law passes each)

mutual

theorem align_inherits (pattern : Pattern) (cursor : Cursor) (undo : Undo)
    (tagged : ∀ tag ∈ pattern.tags, tags tag) : has (Bool × Undo) (pattern.align cursor undo) := by
  cases pattern with
  | value held => exact law.throw _
  | node test children guard slot =>
      simp only [Pattern.tags, List.forall_mem_append] at tagged
      have refused : ∀ undo : Undo, has (Bool × Undo) (pure (false, undo)) := fun undo => law.pure _
      rw [Pattern.align]
      apply choice_inherits law _ _ _ (lift_inherits law _) _ (refused undo)
      apply choice_inherits law _ _ _ (admits_inherits guard cursor tagged.2) _ (refused undo)
      apply choice_inherits law _ _ _ (lift_inherits law _) _ (refused undo)
      apply law.bind (align_forest_inherits children cursor 0 undo tagged.1)
      rintro ⟨aligned, undo⟩
      cases aligned with
      | true => exact law.bind (law.captured slot cursor undo) fun _ => law.pure _
      | false => exact refused undo

theorem align_forest_inherits (patterns : List Pattern) (cursor : Cursor) (index : Nat) (undo : Undo)
    (tagged : ∀ tag ∈ Pattern.forestTags patterns, tags tag) :
    has (Bool × Undo) (Pattern.alignForest patterns cursor index undo) := by
  cases patterns with
  | nil => exact law.pure _
  | cons pattern patterns =>
      simp only [Pattern.forestTags, List.forall_mem_append] at tagged
      apply law.bind (align_inherits pattern _ undo tagged.1)
      rintro ⟨aligned, undo⟩
      cases aligned with
      | true => exact align_forest_inherits patterns cursor (index + 1) undo tagged.2
      | false => exact law.pure _

theorem admits_inherits (guard : Option Guard) (cursor : Cursor)
    (tagged : ∀ tag ∈ Guard.tagsOf guard, tags tag) : has Bool (Guard.admits guard cursor) := by
  cases guard with
  | none => exact law.pure true
  | some guard => exact holds_inherits guard cursor tagged

theorem holds_inherits (guard : Guard) (cursor : Cursor) (tagged : ∀ tag ∈ guard.tags, tags tag) :
    has Bool (guard.holds cursor) := by
  cases guard with
  | prevSibling sibling =>
      apply some_relative_inherits law
      intro other
      exact settle_inherits law _ (align_inherits sibling other [] tagged)
  | nextSibling sibling =>
      apply some_relative_inherits law
      intro other
      exact settle_inherits law _ (align_inherits sibling other [] tagged)
  | sibling sibling =>
      have tried : ∀ other, has Bool (settle (sibling.align other [])) :=
        fun other => settle_inherits law _ (align_inherits sibling other [] tagged)
      rw [Guard.holds, ← bind_assoc]
      exact choice_inherits law _ _ _ (some_relative_inherits law cursor.prevSiblings _ tried)
        (law.pure true) (some_relative_inherits law cursor.nextSiblings _ tried)
  | descendant below =>
      apply some_relative_inherits law
      intro other
      exact settle_inherits law _ (align_inherits below other [] tagged)
  | matching pattern =>
      cases pattern with
      | value held => exact law.throw _
      | node test children guard slot =>
          exact settle_inherits law _ (align_inherits (.node test children guard slot) cursor [] tagged)
  | test ask => exact law.asked ask cursor
  | negation guard => exact law.bind (holds_inherits guard cursor tagged) fun _ => law.pure _
  | all guards => exact all_hold_inherits guards cursor tagged
  | some guards => exact some_holds_inherits guards cursor tagged
  | noted tag guard =>
      simp only [Guard.tags, List.forall_mem_cons] at tagged
      exact law.bind (law.noted tag cursor.path tagged.1) fun _ => holds_inherits guard cursor tagged.2

theorem all_hold_inherits (guards : List Guard) (cursor : Cursor)
    (tagged : ∀ tag ∈ Guard.allTags guards, tags tag) : has Bool (Guard.allHold guards cursor) := by
  cases guards with
  | nil => exact law.pure true
  | cons guard guards =>
      simp only [Guard.allTags, List.forall_mem_append] at tagged
      exact choice_inherits law _ _ _ (holds_inherits guard cursor tagged.1)
        (all_hold_inherits guards cursor tagged.2) (law.pure false)

theorem some_holds_inherits (guards : List Guard) (cursor : Cursor)
    (tagged : ∀ tag ∈ Guard.allTags guards, tags tag) : has Bool (Guard.someHolds guards cursor) := by
  cases guards with
  | nil => exact law.pure false
  | cons guard guards =>
      simp only [Guard.allTags, List.forall_mem_append] at tagged
      exact choice_inherits law _ _ _ (holds_inherits guard cursor tagged.1) (law.pure true)
        (some_holds_inherits guards cursor tagged.2)

end

end

def SameSlots (memory other : Memory) : Prop :=
  memory.slots = other.slots

theorem same_slots_law : Inherited (fun _ run => Parallel SameSlots Eq run run) fun _ => True where
  pure result := parallel_pure result result rfl
  throw fault := parallel_throw fault
  bind first second := by
    apply parallel_bind first
    rintro result _ rfl
    exact second result
  asked ask cursor := by
    rintro ⟨slots, trace⟩ ⟨_, other⟩ rfl
    exact parallel_lift (ask cursor slots) _ _ rfl
  captured slot cursor undo := by
    rintro ⟨slots, trace⟩ ⟨_, other⟩ rfl
    cases slot with
    | none => exact .ok rfl rfl
    | some name => exact .ok rfl rfl
  restored undo := by
    intro memory other same
    exact .ok rfl (funext fun slot => restore_slots_congr undo slot memory other (congrFun same slot))
  noted tag path _ := fun _ _ same => .ok rfl same

theorem restore_trace (undo : Undo) (memory : Memory) : (undo.restore memory).trace = memory.trace := by
  induction undo generalizing memory with
  | nil => rfl
  | cons entry undo ih => exact ih (memory.put entry.1 entry.2)

def Unheard (watch : Watch) (run : Run α) : Prop :=
  Steady watch.heard run

theorem unheard_law (watch : Watch) :
    Inherited (fun _ run => Unheard watch run) fun tag => watch.own tag = false where
  pure _ _ := rfl
  throw _ _ := rfl
  bind first second := steady_bind watch.heard _ _ first second
  asked ask cursor := by
    intro memory
    change watch.heard (stateOf ((liftM (ask cursor memory.slots) : Run Bool) memory)) = _
    cases ask cursor memory.slots <;> rfl
  captured slot cursor undo := by
    intro memory
    cases slot <;> rfl
  restored undo := by
    intro memory
    exact congrArg (List.filter fun note => watch.own note.1) (restore_trace undo memory)
  noted tag path foreign := by
    intro memory
    change (memory.trace ++ [(tag, path)]).filter (fun note => watch.own note.1) = _
    simp [Watch.heard, foreign]

end ScheduleShape
