import ScheduleShape.Pattern.Position
import ScheduleShape.Proofs.Pattern.Meaning

set_option autoImplicit false

namespace ScheduleShape

section

variable [Affine]

variable {α β : Type}

def Keeps (slot : String) (run : Run α) : Prop :=
  ∀ memory, (stateOf (run memory)).slots slot = memory.slots slot

theorem keeps_pure (slot : String) (result : α) : Keeps slot (pure result : Run α) :=
  fun _ => rfl

theorem keeps_throw (slot : String) (fault : Fault) : Keeps slot (throw fault : Run α) :=
  fun _ => rfl

theorem keeps_lift (slot : String) (answer : Except Fault α) : Keeps slot (liftM answer : Run α) := by
  intro memory
  cases answer <;> rfl

theorem keeps_bind (slot : String) (run : Run α) (next : α → Run β) (first : Keeps slot run)
    (second : ∀ result, Keeps slot (next result)) : Keeps slot (run >>= next) :=
  steady_bind (fun memory : Memory => memory.slots slot) run next first second

theorem keeps_ite (slot : String) (answer : Bool) (yes no : Run α) (first : Keeps slot yes)
    (second : Keeps slot no) : Keeps slot (if answer then yes else no) := by
  cases answer <;> assumption

theorem restore_slots_congr (undo : Undo) (slot : String) (memory other : Memory)
    (same : memory.slots slot = other.slots slot) :
    (undo.restore memory).slots slot = (undo.restore other).slots slot := by
  induction undo generalizing memory other with
  | nil => exact same
  | cons entry undo ih =>
      apply ih
      by_cases named : slot = entry.1
      · simp [named]
      · simp [named, same]

-- A match that is being lined up leaves a slot alone unless it is among the names, and its captures
-- can be taken back: restoring afterwards gives what restoring before would have given.
structure Framed (slot : String) (names : List String) (undo : Undo) (run : Run (Bool × Undo)) : Prop where
  keeps : slot ∉ names → Keeps slot run
  undoes : ∀ memory lined after, run memory = .ok lined after →
    (lined.2.restore after).slots slot = (undo.restore memory).slots slot

section

variable {slot : String} {names : List String} {undo : Undo}

theorem framed_pure (answer : Bool) : Framed slot names undo (pure (answer, undo)) where
  keeps _ := keeps_pure slot (answer, undo)
  undoes := by
    rintro memory lined after ended
    cases ended
    rfl

theorem framed_throw (fault : Fault) : Framed slot names undo (throw fault) where
  keeps _ := keeps_throw slot fault
  undoes := by
    rintro memory lined after ended
    cases ended

theorem framed_after (run : Run α) (next : α → Run (Bool × Undo)) (kept : Keeps slot run)
    (framed : ∀ result, Framed slot names undo (next result)) :
    Framed slot names undo (run >>= next) where
  keeps free := keeps_bind slot run next kept fun result => (framed result).keeps free
  undoes := by
    intro memory lined after ended
    obtain ⟨result, between, began, goesOn⟩ := bind_ok run next memory after lined ended
    have here := kept memory
    rw [began] at here
    rw [(framed result).undoes between lined after goesOn]
    exact restore_slots_congr undo slot between memory here

theorem framed_bind (run : Run (Bool × Undo)) (next : Bool × Undo → Run (Bool × Undo))
    (first : Framed slot names undo run)
    (second : ∀ lined, Framed slot names lined.2 (next lined)) :
    Framed slot names undo (run >>= next) where
  keeps free := keeps_bind slot run next (first.keeps free) fun lined => (second lined).keeps free
  undoes := by
    intro memory lined after ended
    obtain ⟨result, between, began, goesOn⟩ := bind_ok run next memory after lined ended
    rw [(second result).undoes between lined after goesOn]
    exact first.undoes memory result between began

theorem framed_ite (answer : Bool) (yes no : Run (Bool × Undo)) (first : Framed slot names undo yes)
    (second : Framed slot names undo no) : Framed slot names undo (if answer then yes else no) := by
  cases answer <;> assumption

theorem framed_mono (run : Run (Bool × Undo)) (more : List String) (framed : Framed slot names undo run)
    (among : slot ∈ names → slot ∈ more) : Framed slot more undo run where
  keeps free := framed.keeps fun member => free (among member)
  undoes := framed.undoes

theorem framed_capture (name : Option String) (cursor : Cursor) (among : ∀ held ∈ name, held ∈ names) :
    Framed slot names undo (do pure (true, ← capture name cursor undo)) := by
  cases name with
  | none => exact framed_pure true
  | some name =>
      constructor
      · intro free memory
        have different : slot ≠ name := fun same => free (same ▸ among name rfl)
        exact Memory.put_other memory name slot (some cursor) different
      · rintro memory lined after ended
        cases ended
        have taken : ((memory.put name (some cursor)).put name (memory.slots name)).slots slot
            = memory.slots slot := by
          by_cases named : slot = name
          · simp [named]
          · simp [named]
        exact restore_slots_congr undo slot _ _ taken

theorem settle_restores (lined : Run (Bool × Undo)) (framed : Framed slot names [] lined)
    (memory after : Memory) (failed : settle lined memory = .ok false after) :
    after.slots slot = memory.slots slot := by
  obtain ⟨⟨matched, undo⟩, between, began, goesOn⟩ := bind_ok lined _ memory after false failed
  cases matched with
  | true => cases goesOn
  | false =>
      cases goesOn
      exact framed.undoes memory (false, undo) between began

theorem settle_keeps (lined : Run (Bool × Undo)) (framed : Framed slot names [] lined)
    (free : slot ∉ names) : Keeps slot (settle lined) := by
  intro memory
  have kept := framed.keeps free memory
  rcases bind_run lined _ memory with ⟨⟨matched, undo⟩, between, began, goesOn⟩ | ⟨fault, between, began, fails⟩
  · rw [settle, goesOn]
    rw [began] at kept
    cases matched with
    | true => exact kept
    | false => exact framed.undoes memory (false, undo) between began
  · rw [settle, fails]
    rw [began] at kept
    exact kept

theorem first_passes_keeps (passes : Cursor → Run Bool) (kept : ∀ cursor, Keeps slot (passes cursor))
    (cursors : List Cursor) : Keeps slot (firstPasses passes cursors) := by
  induction cursors with
  | nil => exact keeps_pure slot false
  | cons cursor cursors ih =>
      exact keeps_bind slot _ _ (kept cursor) fun answer => keeps_ite slot answer _ _ (keeps_pure slot true) ih

theorem some_relative_keeps (relatives : Except Fault (List Cursor)) (passes : Cursor → Run Bool)
    (kept : ∀ cursor, Keeps slot (passes cursor)) :
    Keeps slot (do firstPasses passes (← relatives) : Run Bool) :=
  keeps_bind slot _ _ (keeps_lift slot relatives) (first_passes_keeps passes kept)

end

section

variable (slot : String)

mutual

theorem align_framed (pattern : Pattern) (cursor : Cursor) (undo : Undo) (free : slot ∉ pattern.guardSlots) :
    Framed slot pattern.ownSlots undo (pattern.align cursor undo) := by
  cases pattern with
  | value held => exact framed_throw _
  | node test children guard name =>
      rw [Pattern.guardSlots, List.mem_append, not_or] at free
      rw [Pattern.align, Pattern.own_slots_node]
      apply framed_after _ _ (keeps_lift slot _)
      intro passed
      apply framed_ite _ _ _ _ (framed_pure false)
      apply framed_after _ _ (admits_keeps guard cursor free.2)
      intro admitted
      apply framed_ite _ _ _ _ (framed_pure false)
      apply framed_after _ _ (keeps_lift slot _)
      intro fits
      apply framed_ite _ _ _ _ (framed_pure false)
      apply framed_bind
      · exact framed_mono _ _ (align_forest_framed children cursor 0 undo free.1) fun member =>
          List.mem_append.mpr (.inl member)
      · intro lined
        apply framed_ite _ _ _ _ (framed_pure false)
        apply framed_capture
        intro held named
        exact List.mem_append.mpr (.inr (by simpa using named))

theorem align_forest_framed (patterns : List Pattern) (cursor : Cursor) (index : Nat) (undo : Undo)
    (free : slot ∉ Pattern.forestGuardSlots patterns) :
    Framed slot (patterns.flatMap Pattern.ownSlots) undo
      (Pattern.alignForest patterns cursor index undo) := by
  cases patterns with
  | nil => exact framed_pure true
  | cons pattern patterns =>
      rw [Pattern.forestGuardSlots, List.mem_append, not_or] at free
      rw [Pattern.alignForest, List.flatMap_cons]
      apply framed_bind
      · exact framed_mono _ _ (align_framed pattern _ undo free.1) fun member =>
          List.mem_append.mpr (.inl member)
      · intro lined
        apply framed_ite _ _ _ _ (framed_pure false)
        exact framed_mono _ _ (align_forest_framed patterns cursor (index + 1) lined.2 free.2) fun member =>
          List.mem_append.mpr (.inr member)

theorem admits_keeps (guard : Option Guard) (cursor : Cursor) (free : slot ∉ Guard.slotsOf guard) :
    Keeps slot (Guard.admits guard cursor) := by
  cases guard with
  | none => exact keeps_pure slot true
  | some guard => exact holds_keeps guard cursor free

theorem holds_keeps (guard : Guard) (cursor : Cursor) (free : slot ∉ guard.slots) :
    Keeps slot (guard.holds cursor) := by
  cases guard with
  | prevSibling sibling =>
      rw [Guard.slots, List.mem_append, not_or] at free
      apply some_relative_keeps
      intro other
      exact settle_keeps _ (align_framed sibling other [] free.2) free.1
  | nextSibling sibling =>
      rw [Guard.slots, List.mem_append, not_or] at free
      apply some_relative_keeps
      intro other
      exact settle_keeps _ (align_framed sibling other [] free.2) free.1
  | sibling sibling =>
      rw [Guard.slots, List.mem_append, not_or] at free
      have tried : ∀ other, Keeps slot (settle (sibling.align other [])) :=
        fun other => settle_keeps _ (align_framed sibling other [] free.2) free.1
      rw [Guard.holds, ← bind_assoc]
      apply keeps_bind slot _ _ (some_relative_keeps cursor.prevSiblings _ tried)
      intro answer
      exact keeps_ite slot answer _ _ (keeps_pure slot true)
        (some_relative_keeps cursor.nextSiblings _ tried)
  | descendant below =>
      rw [Guard.slots, List.mem_append, not_or] at free
      apply some_relative_keeps
      intro other
      exact settle_keeps _ (align_framed below other [] free.2) free.1
  | matching pattern =>
      rw [Guard.slots, List.mem_append, not_or] at free
      cases pattern with
      | value held => exact keeps_throw slot _
      | node test children guard name =>
          exact settle_keeps _ (align_framed (.node test children guard name) cursor [] free.2) free.1
  | test ask =>
      intro memory
      exact keeps_lift slot (ask cursor memory.slots) memory
  | negation guard =>
      exact keeps_bind slot _ _ (holds_keeps guard cursor free) fun answer => keeps_pure slot !answer
  | all guards => exact all_hold_keeps guards cursor free
  | some guards => exact some_holds_keeps guards cursor free
  | noted tag guard =>
      intro memory
      exact holds_keeps guard cursor free (memory.note tag cursor.path)

theorem all_hold_keeps (guards : List Guard) (cursor : Cursor) (free : slot ∉ Guard.allSlots guards) :
    Keeps slot (Guard.allHold guards cursor) := by
  cases guards with
  | nil => exact keeps_pure slot true
  | cons guard guards =>
      rw [Guard.allSlots, List.mem_append, not_or] at free
      apply keeps_bind slot _ _ (holds_keeps guard cursor free.1)
      intro answer
      exact keeps_ite slot answer _ _ (all_hold_keeps guards cursor free.2) (keeps_pure slot false)

theorem some_holds_keeps (guards : List Guard) (cursor : Cursor) (free : slot ∉ Guard.allSlots guards) :
    Keeps slot (Guard.someHolds guards cursor) := by
  cases guards with
  | nil => exact keeps_pure slot false
  | cons guard guards =>
      rw [Guard.allSlots, List.mem_append, not_or] at free
      apply keeps_bind slot _ _ (holds_keeps guard cursor free.1)
      intro answer
      exact keeps_ite slot answer _ _ (keeps_pure slot true) (some_holds_keeps guards cursor free.2)

end

end

/-- A match that fails puts back every slot that occurs in no matcher of a guard, and a slot that
occurs nowhere is left alone however the match ends. -/
theorem is_matching_frame (pattern : Pattern) (target : Target) (memory : Memory) :
    (∀ after, pattern.isMatching target memory = .ok false after →
      ∀ slot, slot ∉ pattern.guardSlots → after.slots slot = memory.slots slot)
    ∧ ∀ slot, slot ∉ pattern.ownSlots → slot ∉ pattern.guardSlots →
      (stateOf (pattern.isMatching target memory)).slots slot = memory.slots slot := by
  cases pattern with
  | value held =>
      constructor
      · intro after failed
        cases failed
      · intro slot _ _
        exact keeps_throw slot _ memory
  | node test children guard name =>
      constructor
      · intro after failed slot free
        obtain ⟨cursor, between, reached, goesOn⟩ := bind_ok _ _ memory after false failed
        obtain ⟨_, rfl⟩ := lift_ok target.toCursor memory between cursor reached
        exact settle_restores _ (align_framed slot (.node test children guard name) cursor [] free)
          between after goesOn
      · intro slot notOwn free
        apply keeps_bind slot _ _ (keeps_lift slot target.toCursor)
        intro cursor
        exact settle_keeps _ (align_framed slot (.node test children guard name) cursor [] free) notOwn

end

-- The mark has no two children, so the captures of the filters are taken back. The one that the
-- guard has made on its own stays.
theorem is_matching_frame_filter_then_mark :
    ∃ after, (filterThenMark 2).isMatching (.cursor (.inTree filtersAndMark [0]))
        (Memory.empty.put "last" (some (.startTree .leaf))) = .ok false after
      ∧ "last" ∉ (filterThenMark 2).guardSlots ∧ after.slots "last" = some (.startTree .leaf)
      ∧ "other" ∉ (filterThenMark 2).ownSlots ∧ "other" ∉ (filterThenMark 2).guardSlots
      ∧ after.slots "other" = none
      ∧ after.slots "mark" = some (.inTree filtersAndMark [0, 2]) := by
  have frame := is_matching_frame (filterThenMark 2) (.cursor (.inTree filtersAndMark [0]))
    (Memory.empty.put "last" (some (.startTree .leaf)))
  refine ⟨_, rfl, by decide, frame.1 _ rfl "last" (by decide), by decide, by decide,
    frame.2 "other" (by decide) (by decide), ?_⟩
  exact congrArg some (Cursor.eq_of_place rfl rfl)

end ScheduleShape
