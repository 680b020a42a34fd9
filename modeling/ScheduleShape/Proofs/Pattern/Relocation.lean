import ScheduleShape.Pattern.Match
import ScheduleShape.Proofs.Cursor.Relocation
import ScheduleShape.Proofs.Outcome
import ScheduleShape.Proofs.Pattern.Meaning

set_option autoImplicit false

namespace ScheduleShape

section

variable [Affine]

def SlotsAlike (move : Relocation) (start otherStart : Slots) (memory other : Memory) : Prop :=
  ∀ name, move.Alike (start name) (otherStart name) (memory.slots name) (other.slots name)

inductive UndoAlike (move : Relocation) (start otherStart : Slots) : Undo → Undo → Prop where
  | nil : UndoAlike move start otherStart [] []
  | cons {name : String} {held otherHeld : Option Cursor} {undo otherUndo : Undo}
      (given : move.Alike (start name) (otherStart name) held otherHeld)
      (undone : UndoAlike move start otherStart undo otherUndo) :
      UndoAlike move start otherStart ((name, held) :: undo) ((name, otherHeld) :: otherUndo)

def LinedAlike (move : Relocation) (start otherStart : Slots) (lined other : Bool × Undo) : Prop :=
  lined.1 = other.1 ∧ UndoAlike move start otherStart lined.2 other.2

section

variable {move : Relocation} {start otherStart : Slots}

theorem put_alike (memory other : Memory) (alike : SlotsAlike move start otherStart memory other)
    (slot : String) (held otherHeld : Option Cursor)
    (given : move.Alike (start slot) (otherStart slot) held otherHeld) :
    SlotsAlike move start otherStart (memory.put slot held) (other.put slot otherHeld) := by
  intro name
  by_cases named : name = slot
  · subst named
    simpa using given
  · simpa [named] using alike name

theorem restore_alike (undo otherUndo : Undo) (undone : UndoAlike move start otherStart undo otherUndo)
    (memory other : Memory) (alike : SlotsAlike move start otherStart memory other) :
    SlotsAlike move start otherStart (undo.restore memory) (otherUndo.restore other) := by
  induction undone generalizing memory other with
  | nil => exact alike
  | cons given _ ih => exact ih _ _ (put_alike memory other alike _ _ _ given)

theorem refuse_parallel (undo otherUndo : Undo) (undone : UndoAlike move start otherStart undo otherUndo) :
    Parallel (SlotsAlike move start otherStart) (LinedAlike move start otherStart)
      (pure (false, undo)) (pure (false, otherUndo)) :=
  parallel_pure _ _ ⟨rfl, undone⟩

theorem capture_parallel (slot : Option String) (cursor : Cursor) (level : Level)
    (inside : move.Inside level cursor) (undo otherUndo : Undo)
    (undone : UndoAlike move start otherStart undo otherUndo) :
    Parallel (SlotsAlike move start otherStart) (LinedAlike move start otherStart)
      (do pure (true, ← capture slot (move.lift cursor) undo))
      (do pure (true, ← capture slot cursor otherUndo)) := by
  cases slot with
  | none => exact parallel_pure _ _ ⟨rfl, undone⟩
  | some name =>
      intro memory other alike
      have written : move.Alike (start name) (otherStart name) (some (move.lift cursor)) (some cursor) :=
        .inr ⟨cursor, inside.root, rfl, rfl⟩
      exact .ok ⟨rfl, .cons (alike name) undone⟩ (put_alike memory other alike name _ _ written)

theorem settle_parallel {lined otherLined : Run (Bool × Undo)}
    (parallel : Parallel (SlotsAlike move start otherStart) (LinedAlike move start otherStart)
      lined otherLined) :
    Parallel (SlotsAlike move start otherStart) Eq (settle lined) (settle otherLined) := by
  apply parallel_bind parallel
  rintro ⟨matched, undo⟩ ⟨_, otherUndo⟩ ⟨rfl, undone⟩
  cases matched with
  | true => exact parallel_pure true true rfl
  | false =>
      intro memory other alike
      exact .ok rfl (restore_alike undo otherUndo undone memory other alike)

theorem first_passes_parallel (passes : Cursor → Run Bool) (cursors : List Cursor)
    (parallel : ∀ cursor ∈ cursors,
      Parallel (SlotsAlike move start otherStart) Eq (passes (move.lift cursor)) (passes cursor)) :
    Parallel (SlotsAlike move start otherStart) Eq
      (firstPasses passes (cursors.map move.lift)) (firstPasses passes cursors) := by
  induction cursors with
  | nil => exact parallel_pure false false rfl
  | cons cursor cursors ih =>
      apply parallel_ask (parallel cursor List.mem_cons_self)
      · exact parallel_pure true true rfl
      · exact ih fun other member => parallel other (List.mem_cons_of_mem cursor member)

theorem some_relative_parallel {passes : Cursor → Run Bool} {relatives otherRelatives : Except Fault (List Cursor)}
    (lifted : move.Lifted relatives otherRelatives)
    (parallel : ∀ cursor, move.Inside .below cursor →
      Parallel (SlotsAlike move start otherStart) Eq (passes (move.lift cursor)) (passes cursor)) :
    Parallel (SlotsAlike move start otherStart) Eq
      (do firstPasses passes (← relatives) : Run Bool) (do firstPasses passes (← otherRelatives)) := by
  cases lifted with
  | error fault => exact fun memory other alike => .error alike
  | ok found inside =>
      exact first_passes_parallel passes found fun cursor member => parallel cursor (inside cursor member)

theorem passes_lifted (test : KindTest) (cursor : Cursor) (root : cursor.root = .tree move.part) :
    test.passes (move.lift cursor) = test.passes cursor := by
  cases test with
  | any => rfl
  | exactly kind => rw [KindTest.passes, Relocation.lift_kind move cursor root, KindTest.passes]

theorem fits_children_lifted (patterns : List Pattern) (cursor : Cursor)
    (root : cursor.root = .tree move.part) :
    fitsChildren patterns (move.lift cursor) = fitsChildren patterns cursor := by
  rw [fitsChildren, Relocation.lift_child_count move cursor root, fitsChildren]

mutual

theorem align_parallel (pattern : Pattern) (level : Level) (cursor : Cursor) (undo otherUndo : Undo)
    (unanchored : pattern.Unanchored level) (inside : move.Inside level cursor)
    (undone : UndoAlike move start otherStart undo otherUndo) :
    Parallel (SlotsAlike move start otherStart) (LinedAlike move start otherStart)
      (pattern.align (move.lift cursor) undo) (pattern.align cursor otherUndo) := by
  cases pattern with
  | value held => exact parallel_throw _
  | node test children guard slot =>
      have refused := refuse_parallel undo otherUndo undone
      have admitted : Parallel (SlotsAlike move start otherStart) Eq
          (Guard.admits guard (move.lift cursor)) (Guard.admits guard cursor) :=
        admits_parallel guard level cursor unanchored.2 inside
      have lined := align_forest_parallel children cursor 0 undo otherUndo unanchored.1 inside.root undone
      rw [Pattern.align, Pattern.align, passes_lifted test cursor inside.root,
        fits_children_lifted children cursor inside.root]
      apply parallel_ask (parallel_lift _) _ refused
      apply parallel_ask admitted _ refused
      apply parallel_ask (parallel_lift _) _ refused
      apply parallel_bind lined
      rintro ⟨aligned, undo⟩ ⟨_, otherUndo⟩ ⟨rfl, undone⟩
      exact parallel_ite aligned (capture_parallel slot cursor level inside undo otherUndo undone)
        (refuse_parallel undo otherUndo undone)

theorem align_forest_parallel (patterns : List Pattern) (cursor : Cursor) (index : Nat)
    (undo otherUndo : Undo) (unanchored : Pattern.ForestUnanchored patterns)
    (root : cursor.root = .tree move.part) (undone : UndoAlike move start otherStart undo otherUndo) :
    Parallel (SlotsAlike move start otherStart) (LinedAlike move start otherStart)
      (Pattern.alignForest patterns (move.lift cursor) index undo)
      (Pattern.alignForest patterns cursor index otherUndo) := by
  cases patterns with
  | nil => exact parallel_pure _ _ ⟨rfl, undone⟩
  | cons pattern patterns =>
      have below := Relocation.inside_follow move cursor (.child index) root
      have child := align_parallel pattern .below _ undo otherUndo unanchored.1 below undone
      rw [Pattern.alignForest, Pattern.alignForest, ← Relocation.lift_follow]
      apply parallel_bind child
      rintro ⟨aligned, undo⟩ ⟨_, otherUndo⟩ ⟨rfl, undone⟩
      exact parallel_ite aligned
        (align_forest_parallel patterns cursor (index + 1) undo otherUndo unanchored.2 root undone)
        (refuse_parallel undo otherUndo undone)

theorem admits_parallel (guard : Option Guard) (level : Level) (cursor : Cursor)
    (unanchored : Guard.UnanchoredAny guard level) (inside : move.Inside level cursor) :
    Parallel (SlotsAlike move start otherStart) Eq
      (Guard.admits guard (move.lift cursor)) (Guard.admits guard cursor) := by
  cases guard with
  | none => exact parallel_pure true true rfl
  | some guard => exact holds_parallel guard level cursor unanchored inside

theorem holds_parallel (guard : Guard) (level : Level) (cursor : Cursor)
    (unanchored : guard.Unanchored level) (inside : move.Inside level cursor) :
    Parallel (SlotsAlike move start otherStart) Eq
      (guard.holds (move.lift cursor)) (guard.holds cursor) := by
  cases guard with
  | prevSibling sibling =>
      -- asked below the top only, where the siblings are in the subtree too
      obtain ⟨rfl, unanchored⟩ := unanchored
      apply some_relative_parallel (Relocation.prev_siblings_lifted move cursor inside)
      intro other below
      exact settle_parallel (align_parallel sibling .below other [] [] unanchored below .nil)
  | nextSibling sibling =>
      obtain ⟨rfl, unanchored⟩ := unanchored
      apply some_relative_parallel (Relocation.next_siblings_lifted move cursor inside)
      intro other below
      exact settle_parallel (align_parallel sibling .below other [] [] unanchored below .nil)
  | sibling sibling =>
      obtain ⟨rfl, unanchored⟩ := unanchored
      have tried : ∀ other, move.Inside .below other →
          Parallel (SlotsAlike move start otherStart) Eq
            (settle (sibling.align (move.lift other) [])) (settle (sibling.align other [])) :=
        fun other below =>
          settle_parallel (align_parallel sibling .below other [] [] unanchored below .nil)
      rw [Guard.holds, Guard.holds, ← bind_assoc, ← bind_assoc]
      apply parallel_ask
      · exact some_relative_parallel (Relocation.prev_siblings_lifted move cursor inside) tried
      · exact parallel_pure true true rfl
      · exact some_relative_parallel (Relocation.next_siblings_lifted move cursor inside) tried
  | descendant below =>
      apply some_relative_parallel (Relocation.descendants_lifted move cursor inside.root)
      intro other under
      exact settle_parallel (align_parallel below .below other [] [] unanchored under .nil)
  | matching pattern =>
      cases pattern with
      | value held => exact parallel_throw _
      | node test children guard slot =>
          exact settle_parallel
            (align_parallel (.node test children guard slot) level cursor [] [] unanchored inside .nil)
  | test ask =>
      intro memory other alike
      have same : ask (move.lift cursor) memory.slots = ask cursor other.slots :=
        unanchored _ _ _ _ (Relocation.lift_found move cursor inside.root) fun below =>
          Relocation.lift_index move cursor (inside.proper below)
      change EndsAlike _ _ ((liftM (ask (move.lift cursor) memory.slots) : Run Bool) memory) _
      rw [same]
      exact parallel_lift (ask cursor other.slots) memory other alike
  | negation guard =>
      apply parallel_bind (holds_parallel guard level cursor unanchored inside)
      rintro answer _ rfl
      exact parallel_pure _ _ rfl
  | all guards => exact all_hold_parallel guards level cursor unanchored inside
  | some guards => exact some_holds_parallel guards level cursor unanchored inside
  | noted tag guard =>
      intro memory other alike
      exact holds_parallel guard level cursor unanchored inside
        (memory.note tag (move.lift cursor).path) (other.note tag cursor.path) alike

theorem all_hold_parallel (guards : List Guard) (level : Level) (cursor : Cursor)
    (unanchored : Guard.UnanchoredAll guards level) (inside : move.Inside level cursor) :
    Parallel (SlotsAlike move start otherStart) Eq
      (Guard.allHold guards (move.lift cursor)) (Guard.allHold guards cursor) := by
  cases guards with
  | nil => exact parallel_pure true true rfl
  | cons guard guards =>
      apply parallel_ask (holds_parallel guard level cursor unanchored.1 inside)
      · exact all_hold_parallel guards level cursor unanchored.2 inside
      · exact parallel_pure false false rfl

theorem some_holds_parallel (guards : List Guard) (level : Level) (cursor : Cursor)
    (unanchored : Guard.UnanchoredAll guards level) (inside : move.Inside level cursor) :
    Parallel (SlotsAlike move start otherStart) Eq
      (Guard.someHolds guards (move.lift cursor)) (Guard.someHolds guards cursor) := by
  cases guards with
  | nil => exact parallel_pure false false rfl
  | cons guard guards =>
      apply parallel_ask (holds_parallel guard level cursor unanchored.1 inside)
      · exact parallel_pure true true rfl
      · exact some_holds_parallel guards level cursor unanchored.2 inside

end

theorem match_at_parallel (pattern : Pattern) (level : Level) (cursor : Cursor)
    (unanchored : pattern.Unanchored level) (inside : move.Inside level cursor) :
    Parallel (SlotsAlike move start otherStart) Eq
      (pattern.matchAt (move.lift cursor)) (pattern.matchAt cursor) :=
  settle_parallel (align_parallel pattern level cursor [] [] unanchored inside .nil)

theorem matches_among_parallel (pattern : Pattern) (cursors : List Cursor)
    (parallel : ∀ cursor ∈ cursors, Parallel (SlotsAlike move start otherStart) Eq
      (pattern.matchAt (move.lift cursor)) (pattern.matchAt cursor)) :
    Parallel (SlotsAlike move start otherStart) (fun found others => found = others.map move.lift)
      (pattern.matchesAmong (cursors.map move.lift)) (pattern.matchesAmong cursors) := by
  induction cursors with
  | nil => exact parallel_pure [] [] rfl
  | cons cursor cursors ih =>
      apply parallel_bind (parallel cursor List.mem_cons_self)
      rintro matched _ rfl
      apply parallel_bind (ih fun other member => parallel other (List.mem_cons_of_mem cursor member))
      rintro _ others rfl
      apply parallel_pure
      cases matched <;> rfl

theorem find_all_parallel (pattern : Pattern) (unanchored : pattern.Unanchored .top) :
    Parallel (SlotsAlike move start otherStart) (fun found others => found = others.map move.lift)
      (pattern.findAll (.cursor (move.lift (.startTree move.part)))) (pattern.findAll (.tree move.part)) := by
  have top := Relocation.inside_start move
  have below := Relocation.descendants_lifted move (.startTree move.part) top.root
  change Parallel _ _
    (do pattern.matchesAmong (move.lift (.startTree move.part) ::
      (← (move.lift (.startTree move.part)).descendants)) : Run (List Cursor))
    (do pattern.matchesAmong (.startTree move.part :: (← (Cursor.startTree move.part).descendants)))
  generalize (move.lift (.startTree move.part)).descendants = outer,
    (Cursor.startTree move.part).descendants = inner at below
  cases below with
  | error fault => exact fun memory other alike => .error alike
  | ok found inside =>
      apply matches_among_parallel pattern (.startTree move.part :: found)
      intro cursor member
      -- also where the pattern is tried below the top, its top node is not asked for the place
      apply match_at_parallel pattern .top cursor unanchored
      rcases List.mem_cons.mp member with rfl | among
      · exact top
      · exact Relocation.inside_top move cursor .below (inside cursor among)

end

section

variable (level : Level)

theorem constant_unanchored (answer : Value) : (Guard.constant answer).Unanchored level :=
  fun _ _ _ _ _ _ => rfl

theorem raising_unanchored (reason : Value) : (Guard.raising reason).Unanchored level :=
  fun _ _ _ _ _ _ => rfl

theorem payload_is_unanchored (payload : Value) : (Guard.payloadIs payload).Unanchored level := by
  intro cursor other _ _ same _
  dsimp only
  rw [Cursor.payload, same, Cursor.payload]

theorem child_count_is_unanchored (count : Value) : (Guard.childCountIs count).Unanchored level := by
  intro cursor other _ _ same _
  dsimp only
  rw [Cursor.childCount, same, Cursor.childCount]

theorem index_is_unanchored (index : Value) : (Guard.indexIs index).Unanchored .below := by
  intro cursor other _ _ _ same
  dsimp only
  rw [same rfl]

end

/-- Matching commutes with relocation. At its address in a tree a subtree gives the answer or the
fault that it gives alone, and the slots that are written hold the same places, put below the
address; so are the places that are found. -/
theorem matching_relocates (move : Relocation) (pattern : Pattern) (unanchored : pattern.Unanchored .top)
    (memory other : Memory) :
    EndsAlike (SlotsAlike move memory.slots other.slots) Eq
        (pattern.isMatching (.cursor (.inTree move.tree move.address)) memory)
        (pattern.isMatching (.tree move.part) other)
      ∧ EndsAlike (SlotsAlike move memory.slots other.slots) (fun found others => found = others.map move.lift)
        (pattern.findAll (.cursor (.inTree move.tree move.address)) memory)
        (pattern.findAll (.tree move.part) other) := by
  have unwritten : SlotsAlike move memory.slots other.slots memory other := fun _ => .inl ⟨rfl, rfl⟩
  rw [← Relocation.lift_start]
  constructor
  · cases pattern with
    | value held => exact .error unwritten
    | node test children guard slot =>
        exact match_at_parallel (.node test children guard slot) .top (.startTree move.part) unanchored
          (Relocation.inside_start move) memory other unwritten
  · exact find_all_parallel pattern unanchored memory other unwritten

end

def filtersMoved : Relocation where
  tree := filtersAndMark
  address := [0]
  part := _
  inside := rfl

def aboveMark : Pattern :=
  .node .any []
    (some (.all
      [.descendant (.node (.exactly (.carrier .mark)) []
          (some (.all [.indexIs (.int 2),
            .prevSibling (.node (.exactly (.carrier .filter)) [] none (some "before"))])) (some "below")),
        .matching (filterThenMark 1), .negation (.payloadIs (.int 7)),
        .some [.constant (.bool true), .raising (.text "not asked")]]))
    (some "top")

theorem filter_then_mark_unanchored (count : Int) : (filterThenMark count).Unanchored .top :=
  ⟨⟨⟨trivial, rfl, trivial, trivial⟩, ⟨trivial, index_is_unanchored _⟩,
    ⟨⟨⟨trivial, trivial⟩, trivial⟩, child_count_is_unanchored _ _⟩, trivial⟩, trivial⟩

theorem above_mark_unanchored : aboveMark.Unanchored .top :=
  ⟨trivial, ⟨trivial, index_is_unanchored _, ⟨rfl, trivial, trivial⟩, trivial⟩,
    filter_then_mark_unanchored 1, payload_is_unanchored _ _,
    ⟨constant_unanchored _ _, raising_unanchored _ _, trivial⟩, trivial⟩

theorem matching_relocates_above_mark :
    aboveMark.Unanchored .top
      ∧ EndsAlike (SlotsAlike filtersMoved Memory.empty.slots Memory.empty.slots) Eq
        (aboveMark.isMatching (.cursor (.inTree filtersAndMark [0])) .empty)
        (aboveMark.isMatching (.tree filtersMoved.part) .empty)
      ∧ EndsAlike (SlotsAlike filtersMoved Memory.empty.slots Memory.empty.slots)
        (fun found others => found = others.map filtersMoved.lift)
        (aboveMark.findAll (.cursor (.inTree filtersAndMark [0])) .empty)
        (aboveMark.findAll (.tree filtersMoved.part) .empty)
      ∧ ∃ after alone, aboveMark.isMatching (.cursor (.inTree filtersAndMark [0])) .empty = .ok true after
        ∧ aboveMark.isMatching (.tree filtersMoved.part) .empty = .ok true alone
        ∧ after.slots "below" = some (.inTree filtersAndMark [0, 2])
        ∧ alone.slots "below" = some (.inTree filtersMoved.part [2]) := by
  have relocated := matching_relocates filtersMoved aboveMark above_mark_unanchored .empty .empty
  refine ⟨above_mark_unanchored, relocated.1, relocated.2, _, _, rfl, rfl, ?_, ?_⟩
  · exact congrArg some (Cursor.eq_of_place rfl rfl)
  · exact congrArg some (Cursor.eq_of_place rfl rfl)

end ScheduleShape
