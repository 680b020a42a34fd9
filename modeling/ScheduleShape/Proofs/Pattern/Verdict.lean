import ScheduleShape.Pattern.Match
import ScheduleShape.Pattern.Meaning
import ScheduleShape.Proofs.Outcome

set_option autoImplicit false

namespace ScheduleShape

theorem and_true_verdict (verdict : Except Fault Bool) : (verdict <&&> .ok true) = verdict := by
  rcases verdict with fault | answer
  · rfl
  · cases answer <;> rfl

variable [Affine]

theorem capture_shows (slot : Option String) (cursor : Cursor) (undo : Undo) :
    Shows Prod.fst (do pure (true, ← capture slot cursor undo)) (.ok true) := by
  cases slot <;> exact fun _ => rfl

theorem settle_shows (lined : Run (Bool × Undo)) (expected : Except Fault Bool)
    (shown : Shows Prod.fst lined expected) : Shows id (settle lined) expected := by
  have continued : Shows id (settle lined) (expected >>= pure) := by
    apply shows_bind Prod.fst id lined _ expected pure shown
    rintro ⟨matched, undo⟩ _
    cases matched with
    | true => exact shows_pure id true
    | false => exact shows_modify id undo.restore (pure false) _ (shows_pure id false)
  simpa using continued

theorem first_passes_shows (passes : Cursor → Run Bool) (judge : Cursor → Except Fault Bool)
    (shown : ∀ cursor, Shows id (passes cursor) (judge cursor)) (cursors : List Cursor) :
    Shows id (firstPasses passes cursors) (firstVerdict judge cursors) := by
  induction cursors with
  | nil => exact shows_pure id false
  | cons cursor cursors ih => exact shows_or id _ _ _ _ (shown cursor) ih

theorem some_relative_shows (relatives : Except Fault (List Cursor)) (passes : Cursor → Run Bool)
    (judge : Cursor → Except Fault Bool) (shown : ∀ cursor, Shows id (passes cursor) (judge cursor)) :
    Shows id (do firstPasses passes (← relatives) : Run Bool)
      (do firstVerdict judge (← relatives)) := by
  apply shows_bind id id _ _ relatives (firstVerdict judge) (shows_lift relatives)
  intro cursors _
  exact first_passes_shows passes judge shown cursors

mutual

theorem align_shows (pattern : Pattern) (cursor : Cursor) (undo : Undo) (fromNode : pattern.FromNode) :
    Shows Prod.fst (pattern.align cursor undo) (pattern.verdict cursor) := by
  cases pattern with
  | value held => exact shows_throw _ _
  | node test children guard slot =>
      have refused : ∀ undo : Undo, Shows Prod.fst (pure (false, undo) : Run (Bool × Undo)) (.ok false) :=
        fun undo => shows_pure Prod.fst (false, undo)
      apply shows_and id Prod.fst _ _ _ _ _ (shows_lift (test.passes cursor)) _ fun _ => refused undo
      intro _
      apply shows_and id Prod.fst _ _ _ _ _ (admits_shows guard cursor fromNode.2) _ fun _ => refused undo
      intro _
      apply shows_and id Prod.fst _ _ _ _ _ (shows_lift (fitsChildren children cursor)) _ fun _ => refused undo
      intro _
      have lined := align_forest_shows children cursor 0 undo fromNode.1
      rw [← and_true_verdict (Pattern.forestVerdict children cursor 0)]
      exact shows_and Prod.fst Prod.fst _ _ _ _ _ lined
        (fun lined => capture_shows slot cursor lined.2) fun lined => refused lined.2

theorem align_forest_shows (patterns : List Pattern) (cursor : Cursor) (index : Nat) (undo : Undo)
    (fromNode : Pattern.ForestThroughout (fun _ => True) NodeTest.FromNode patterns) :
    Shows Prod.fst (Pattern.alignForest patterns cursor index undo)
      (Pattern.forestVerdict patterns cursor index) := by
  cases patterns with
  | nil => exact shows_pure Prod.fst (true, undo)
  | cons pattern patterns =>
      exact shows_and Prod.fst Prod.fst _ _ _ _ _
        (align_shows pattern (cursor.follow (.child index)) undo fromNode.1)
        (fun lined => align_forest_shows patterns cursor (index + 1) lined.2 fromNode.2)
        fun lined => shows_pure Prod.fst (false, lined.2)

theorem admits_shows (guard : Option Guard) (cursor : Cursor)
    (fromNode : Guard.ThroughoutAny (fun _ => True) NodeTest.FromNode guard) :
    Shows id (Guard.admits guard cursor) (Guard.verdictOf guard cursor) := by
  cases guard with
  | none => exact shows_pure id true
  | some guard => exact holds_shows guard cursor fromNode

theorem holds_shows (guard : Guard) (cursor : Cursor)
    (fromNode : guard.Throughout (fun _ => True) NodeTest.FromNode) :
    Shows id (guard.holds cursor) (guard.verdict cursor) := by
  cases guard with
  | prevSibling sibling =>
      apply some_relative_shows
      intro other
      exact settle_shows _ _ (align_shows sibling other [] fromNode)
  | nextSibling sibling =>
      apply some_relative_shows
      intro other
      exact settle_shows _ _ (align_shows sibling other [] fromNode)
  | sibling sibling =>
      have tried : ∀ other, Shows id (settle (sibling.align other [])) (sibling.verdict other) :=
        fun other => settle_shows _ _ (align_shows sibling other [] fromNode)
      rw [Guard.holds, ← bind_assoc]
      exact shows_or id _ _ _ _ (some_relative_shows cursor.prevSiblings _ _ tried)
        (some_relative_shows cursor.nextSiblings _ _ tried)
  | descendant below =>
      apply some_relative_shows
      intro other
      exact settle_shows _ _ (align_shows below other [] fromNode)
  | matching pattern =>
      cases pattern with
      | value held => exact shows_throw _ _
      | node test children guard slot =>
          exact settle_shows _ _ (align_shows (.node test children guard slot) cursor [] fromNode)
  | test ask =>
      apply shows_get
      intro memory
      have same : ask cursor memory.slots = ask cursor fun _ => none := fromNode cursor _ _
      rw [same]
      exact shows_lift _
  | negation guard =>
      apply shows_bind id id _ _ _ _ (holds_shows guard cursor fromNode)
      intro answer _
      exact shows_pure id !answer
  | all guards => exact all_hold_shows guards cursor fromNode
  | some guards => exact some_holds_shows guards cursor fromNode
  | noted tag guard => exact shows_modify _ _ _ _ (holds_shows guard cursor fromNode)

theorem all_hold_shows (guards : List Guard) (cursor : Cursor)
    (fromNode : Guard.ThroughoutAll (fun _ => True) NodeTest.FromNode guards) :
    Shows id (Guard.allHold guards cursor) (Guard.allVerdict guards cursor) := by
  cases guards with
  | nil => exact shows_pure id true
  | cons guard guards =>
      exact shows_and id id _ _ _ _ _ (holds_shows guard cursor fromNode.1)
        (fun _ => all_hold_shows guards cursor fromNode.2) fun _ => shows_pure id false

theorem some_holds_shows (guards : List Guard) (cursor : Cursor)
    (fromNode : Guard.ThroughoutAll (fun _ => True) NodeTest.FromNode guards) :
    Shows id (Guard.someHolds guards cursor) (Guard.someVerdict guards cursor) := by
  cases guards with
  | nil => exact shows_pure id false
  | cons guard guards =>
      exact shows_or id _ _ _ _ (holds_shows guard cursor fromNode.1)
        (some_holds_shows guards cursor fromNode.2)

end

theorem match_at_shows (pattern : Pattern) (cursor : Cursor) (fromNode : pattern.FromNode) :
    Shows id (pattern.matchAt cursor) (pattern.verdict cursor) :=
  settle_shows _ _ (align_shows pattern cursor [] fromNode)

end ScheduleShape
