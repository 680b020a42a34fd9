import Mathlib.Data.List.Forall2
import ScheduleShape.Pattern.Twins
import ScheduleShape.Pattern.Match
import ScheduleShape.Pattern.Task
import ScheduleShape.Pattern.Basic
import ScheduleShape.Proofs.Outcome

set_option autoImplicit false

namespace ScheduleShape

variable [Affine]

inductive Listed (places : Cursor → Cursor → Prop) : Except Fault (List Cursor) → Except Fault (List Cursor) → Prop where
  | error (fault : Fault) : Listed places (.error fault) (.error fault)
  | ok {found others : List Cursor} (same : List.Forall₂ places found others) :
      Listed places (.ok found) (.ok others)

-- Which places and which memories correspond, what a slot may hold in either run, and which tests may be
-- asked. Notes under the deaf tags are made in the second run only.
structure Simulation (deaf : String → Bool) where
  places : Cursor → Cursor → Prop
  holds : String → Option Cursor → Option Cursor → Prop
  states : Memory → Memory → Prop
  tests : NodeTest → Prop
  kind {cursor other : Cursor} (same : places cursor other) : cursor.kind = other.kind
  childCount {cursor other : Cursor} (same : places cursor other) : cursor.childCount = other.childCount
  child {cursor other : Cursor} (same : places cursor other) (count index : Nat)
    (counted : cursor.childCount = .ok count) (within : index < count) :
    places (cursor.follow (.child index)) (other.follow (.child index))
  prevSiblings {cursor other : Cursor} (same : places cursor other) :
    Listed places cursor.prevSiblings other.prevSiblings
  nextSiblings {cursor other : Cursor} (same : places cursor other) :
    Listed places cursor.nextSiblings other.nextSiblings
  descendants {cursor other : Cursor} (same : places cursor other) :
    Listed places cursor.descendants other.descendants
  asked {ask : NodeTest} {cursor other : Cursor} {memory otherMemory : Memory} (demanded : tests ask)
    (same : places cursor other) (alike : states memory otherMemory) :
    ask cursor memory.slots = ask other otherMemory.slots
  captured {cursor other : Cursor} (same : places cursor other) (slot : String) :
    holds slot (some cursor) (some other)
  held {memory otherMemory : Memory} (alike : states memory otherMemory) (slot : String) :
    holds slot (memory.slots slot) (otherMemory.slots slot)
  put {memory otherMemory : Memory} {slot : String} {held otherHeld : Option Cursor}
    (alike : states memory otherMemory) (given : holds slot held otherHeld) :
    states (memory.put slot held) (otherMemory.put slot otherHeld)
  noted {cursor other : Cursor} {memory otherMemory : Memory} (same : places cursor other)
    (alike : states memory otherMemory) (tag : String) :
    states (memory.note tag cursor.path) (otherMemory.note tag other.path)
  unheard {memory otherMemory : Memory} (alike : states memory otherMemory) (tag : String) (path : List Step)
    (unnoticed : deaf tag = true) : states memory (otherMemory.note tag path)

theorem parallel_known {α : Type} {states : Memory → Memory → Prop} {results : α → α → Prop}
    {yes no otherYes otherNo : Run α} (answer : Except Fault Bool)
    (first : answer = .ok true → Parallel states results yes otherYes)
    (second : Parallel states results no otherNo) :
    Parallel states results (do if ← answer then yes else no) (do if ← answer then otherYes else otherNo) := by
  cases answer with
  | error fault => exact parallel_throw fault
  | ok answer => cases answer with
    | true => exact first rfl
    | false => exact second

theorem forest_muted_length (deaf : String → Bool) (patterns : List Pattern) :
    (Pattern.forestMuted deaf patterns).length = patterns.length := by
  induction patterns with
  | nil => rfl
  | cons pattern patterns ih => exact congrArg (· + 1) ih

namespace Simulation

variable {deaf : String → Bool} (sim : Simulation deaf)

def Undone (undo otherUndo : Undo) : Prop :=
  List.Forall₂ (fun entry other => entry.1 = other.1 ∧ sim.holds entry.1 entry.2 other.2) undo otherUndo

def Lined (lined other : Bool × Undo) : Prop :=
  lined.1 = other.1 ∧ sim.Undone lined.2 other.2

variable {sim}

theorem passes_same (test : KindTest) {cursor other : Cursor} (same : sim.places cursor other) :
    test.passes cursor = test.passes other := by
  cases test with
  | any => rfl
  | exactly kind => rw [KindTest.passes, sim.kind same, KindTest.passes]

theorem fits_same (children : List Pattern) {cursor other : Cursor} (same : sim.places cursor other) :
    fitsChildren (Pattern.forestMuted deaf children) cursor = fitsChildren children other := by
  rw [fits_children_counts, forest_muted_length, countsTo, sim.childCount same, fits_children_counts, countsTo]

theorem child_same (children : List Pattern) {cursor other : Cursor} (same : sim.places cursor other)
    (fits : fitsChildren children other = .ok true) (index : Nat) (within : index < children.length) :
    sim.places (cursor.follow (.child index)) (other.follow (.child index)) := by
  rw [fits_children_counts, countsTo, if_neg (Nat.ne_of_gt (Nat.zero_lt_of_lt within)), ← sim.childCount same] at fits
  cases counted : cursor.childCount with
  | error fault =>
      rw [counted] at fits
      cases fits
  | ok count =>
      rw [counted] at fits
      have exact : count = children.length := by simpa [Except.map] using fits
      exact sim.child same count index counted (exact ▸ within)

theorem refuse_simulated (undo otherUndo : Undo) (undone : sim.Undone undo otherUndo) :
    Parallel sim.states sim.Lined (pure (false, undo)) (pure (false, otherUndo)) :=
  parallel_pure _ _ ⟨rfl, undone⟩

theorem capture_simulated (slot : Option String) {cursor other : Cursor} (same : sim.places cursor other)
    (undo otherUndo : Undo) (undone : sim.Undone undo otherUndo) :
    Parallel sim.states sim.Lined (do pure (true, ← capture slot cursor undo))
      (do pure (true, ← capture slot other otherUndo)) := by
  cases slot with
  | none => exact parallel_pure _ _ ⟨rfl, undone⟩
  | some name =>
      intro memory otherMemory alike
      exact .ok ⟨rfl, .cons ⟨rfl, sim.held alike name⟩ undone⟩ (sim.put alike (sim.captured same name))

theorem restore_simulated (undo otherUndo : Undo) (undone : sim.Undone undo otherUndo)
    (memory otherMemory : Memory) (alike : sim.states memory otherMemory) :
    sim.states (undo.restore memory) (otherUndo.restore otherMemory) := by
  induction undone generalizing memory otherMemory with
  | nil => exact alike
  | @cons entry other undo otherUndo given _ ih =>
      obtain ⟨slot, held⟩ := entry
      obtain ⟨_, otherHeld⟩ := other
      obtain ⟨rfl, given⟩ := given
      exact ih _ _ (sim.put alike given)

theorem settle_simulated {lined otherLined : Run (Bool × Undo)}
    (parallel : Parallel sim.states sim.Lined lined otherLined) :
    Parallel sim.states Eq (settle lined) (settle otherLined) := by
  apply parallel_bind parallel
  rintro ⟨matched, undo⟩ ⟨_, otherUndo⟩ ⟨rfl, undone⟩
  cases matched with
  | true => exact parallel_pure true true rfl
  | false =>
      intro memory otherMemory alike
      exact .ok rfl (restore_simulated undo otherUndo undone memory otherMemory alike)

theorem first_passes_simulated {passes otherPasses : Cursor → Run Bool} (cursors others : List Cursor)
    (listed : List.Forall₂ sim.places cursors others)
    (tried : ∀ cursor other, sim.places cursor other →
      Parallel sim.states Eq (passes cursor) (otherPasses other)) :
    Parallel sim.states Eq (firstPasses passes cursors) (firstPasses otherPasses others) := by
  induction listed with
  | nil => exact parallel_pure false false rfl
  | cons same _ ih => exact parallel_ask (tried _ _ same) (parallel_pure true true rfl) ih

theorem some_relative_simulated {passes otherPasses : Cursor → Run Bool}
    {relatives otherRelatives : Except Fault (List Cursor)} (listed : Listed sim.places relatives otherRelatives)
    (tried : ∀ cursor other, sim.places cursor other →
      Parallel sim.states Eq (passes cursor) (otherPasses other)) :
    Parallel sim.states Eq (do firstPasses passes (← relatives) : Run Bool)
      (do firstPasses otherPasses (← otherRelatives)) := by
  cases listed with
  | error fault => exact parallel_throw fault
  | ok same => exact first_passes_simulated _ _ same tried

mutual

theorem align_simulated (pattern : Pattern) (cursor other : Cursor) (undo otherUndo : Undo)
    (demanded : pattern.Throughout (fun _ => True) sim.tests) (same : sim.places cursor other)
    (undone : sim.Undone undo otherUndo) :
    Parallel sim.states sim.Lined ((pattern.muted deaf).align cursor undo) (pattern.align other otherUndo) := by
  cases pattern with
  | value held => exact parallel_throw _
  | node test children guard slot =>
      have refused := refuse_simulated undo otherUndo undone
      rw [Pattern.muted, Pattern.align, Pattern.align, passes_same test same, fits_same children same]
      apply parallel_ask (parallel_lift _) _ refused
      apply parallel_ask (admits_simulated guard cursor other demanded.2 same) _ refused
      apply parallel_known _ _ refused
      intro fits
      apply parallel_bind (align_forest_simulated children cursor other 0 undo otherUndo demanded.1
        (fun index _ within => child_same children same fits index (by omega)) undone)
      rintro ⟨aligned, undo⟩ ⟨_, otherUndo⟩ ⟨rfl, undone⟩
      exact parallel_ite aligned (capture_simulated slot same undo otherUndo undone)
        (refuse_simulated undo otherUndo undone)

theorem align_forest_simulated (patterns : List Pattern) (cursor other : Cursor) (index : Nat)
    (undo otherUndo : Undo) (demanded : Pattern.ForestThroughout (fun _ => True) sim.tests patterns)
    (below : ∀ place, index ≤ place → place < index + patterns.length →
      sim.places (cursor.follow (.child place)) (other.follow (.child place)))
    (undone : sim.Undone undo otherUndo) :
    Parallel sim.states sim.Lined (Pattern.alignForest (Pattern.forestMuted deaf patterns) cursor index undo)
      (Pattern.alignForest patterns other index otherUndo) := by
  cases patterns with
  | nil => exact parallel_pure _ _ ⟨rfl, undone⟩
  | cons pattern patterns =>
      rw [List.length_cons] at below
      have child := below index (Nat.le_refl index) (by omega)
      apply parallel_bind (align_simulated pattern _ _ undo otherUndo demanded.1 child undone)
      rintro ⟨aligned, undo⟩ ⟨_, otherUndo⟩ ⟨rfl, undone⟩
      exact parallel_ite aligned
        (align_forest_simulated patterns cursor other (index + 1) undo otherUndo demanded.2
          (fun place after within => below place (by omega) (by omega)) undone)
        (refuse_simulated undo otherUndo undone)

theorem admits_simulated (guard : Option Guard) (cursor other : Cursor)
    (demanded : Guard.ThroughoutAny (fun _ => True) sim.tests guard) (same : sim.places cursor other) :
    Parallel sim.states Eq (Guard.admits (Guard.anyMuted deaf guard) cursor) (Guard.admits guard other) := by
  cases guard with
  | none => exact parallel_pure true true rfl
  | some guard => exact holds_simulated guard cursor other demanded same

theorem holds_simulated (guard : Guard) (cursor other : Cursor)
    (demanded : guard.Throughout (fun _ => True) sim.tests) (same : sim.places cursor other) :
    Parallel sim.states Eq ((guard.muted deaf).holds cursor) (guard.holds other) := by
  cases guard with
  | prevSibling sibling =>
      apply some_relative_simulated (sim.prevSiblings same)
      intro cursor other same
      exact settle_simulated (align_simulated sibling cursor other [] [] demanded same .nil)
  | nextSibling sibling =>
      apply some_relative_simulated (sim.nextSiblings same)
      intro cursor other same
      exact settle_simulated (align_simulated sibling cursor other [] [] demanded same .nil)
  | sibling sibling =>
      have tried : ∀ cursor other, sim.places cursor other → Parallel sim.states Eq
          (settle ((sibling.muted deaf).align cursor [])) (settle (sibling.align other [])) :=
        fun cursor other same => settle_simulated (align_simulated sibling cursor other [] [] demanded same .nil)
      rw [Guard.muted, Guard.holds, Guard.holds, ← bind_assoc, ← bind_assoc]
      apply parallel_ask
      · exact some_relative_simulated (sim.prevSiblings same) tried
      · exact parallel_pure true true rfl
      · exact some_relative_simulated (sim.nextSiblings same) tried
  | descendant below =>
      apply some_relative_simulated (sim.descendants same)
      intro cursor other same
      exact settle_simulated (align_simulated below cursor other [] [] demanded same .nil)
  | matching pattern =>
      cases pattern with
      | value held => exact parallel_throw _
      | node test children guard slot =>
          exact settle_simulated (align_simulated (.node test children guard slot) cursor other [] [] demanded same .nil)
  | test ask =>
      intro memory otherMemory alike
      change EndsAlike _ _ ((liftM (ask cursor memory.slots) : Run Bool) memory) _
      rw [sim.asked demanded same alike]
      exact parallel_lift (ask other otherMemory.slots) memory otherMemory alike
  | negation guard =>
      apply parallel_bind (holds_simulated guard cursor other demanded same)
      rintro answer _ rfl
      exact parallel_pure _ _ rfl
  | all guards => exact all_hold_simulated guards cursor other demanded same
  | some guards => exact some_holds_simulated guards cursor other demanded same
  | noted tag guard =>
      intro memory otherMemory alike
      have held := holds_simulated guard cursor other demanded same
      rw [Guard.muted]
      cases unnoticed : deaf tag with
      | true => exact held memory (otherMemory.note tag other.path) (sim.unheard alike tag other.path unnoticed)
      | false => exact held (memory.note tag cursor.path) (otherMemory.note tag other.path) (sim.noted same alike tag)

theorem all_hold_simulated (guards : List Guard) (cursor other : Cursor)
    (demanded : Guard.ThroughoutAll (fun _ => True) sim.tests guards) (same : sim.places cursor other) :
    Parallel sim.states Eq (Guard.allHold (Guard.allMuted deaf guards) cursor) (Guard.allHold guards other) := by
  cases guards with
  | nil => exact parallel_pure true true rfl
  | cons guard guards =>
      apply parallel_ask (holds_simulated guard cursor other demanded.1 same)
      · exact all_hold_simulated guards cursor other demanded.2 same
      · exact parallel_pure false false rfl

theorem some_holds_simulated (guards : List Guard) (cursor other : Cursor)
    (demanded : Guard.ThroughoutAll (fun _ => True) sim.tests guards) (same : sim.places cursor other) :
    Parallel sim.states Eq (Guard.someHolds (Guard.allMuted deaf guards) cursor) (Guard.someHolds guards other) := by
  cases guards with
  | nil => exact parallel_pure false false rfl
  | cons guard guards =>
      apply parallel_ask (holds_simulated guard cursor other demanded.1 same)
      · exact parallel_pure true true rfl
      · exact some_holds_simulated guards cursor other demanded.2 same

end

section

variable (sim) (pattern : Pattern) (demanded : pattern.Throughout (fun _ => True) sim.tests)

include demanded

theorem match_simulated (cursor other : Cursor) (same : sim.places cursor other) :
    Parallel sim.states Eq ((pattern.muted deaf).matchAt cursor) (pattern.matchAt other) :=
  settle_simulated (align_simulated pattern cursor other [] [] demanded same .nil)

theorem is_matching_simulated (cursor other : Cursor) (same : sim.places cursor other) :
    Parallel sim.states Eq ((pattern.muted deaf).isMatching (.cursor cursor)) (pattern.isMatching (.cursor other)) := by
  cases pattern with
  | value held => exact parallel_throw _
  | node test children guard slot => exact match_simulated sim _ demanded cursor other same

theorem matches_among_simulated (cursors others : List Cursor) (listed : List.Forall₂ sim.places cursors others) :
    Parallel sim.states (List.Forall₂ sim.places) ((pattern.muted deaf).matchesAmong cursors)
      (pattern.matchesAmong others) := by
  induction listed with
  | nil => exact parallel_pure [] [] .nil
  | cons same _ ih =>
      apply parallel_bind (match_simulated sim pattern demanded _ _ same)
      rintro matched _ rfl
      apply parallel_bind ih
      intro found others listed
      apply parallel_pure
      cases matched with
      | true => exact .cons same listed
      | false => exact listed

theorem find_all_simulated (cursor other : Cursor) (same : sim.places cursor other) :
    Parallel sim.states (List.Forall₂ sim.places) ((pattern.muted deaf).findAll (.cursor cursor))
      (pattern.findAll (.cursor other)) := by
  have below := sim.descendants same
  change Parallel _ _ (do (pattern.muted deaf).matchesAmong (cursor :: (← cursor.descendants)) : Run (List Cursor))
    (do pattern.matchesAmong (other :: (← other.descendants)))
  generalize cursor.descendants = found, other.descendants = others at below
  cases below with
  | error fault => exact parallel_throw fault
  | ok listed => exact matches_among_simulated sim pattern demanded _ _ (.cons same listed)

end

end Simulation

end ScheduleShape
