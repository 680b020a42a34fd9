import ScheduleShape.Pattern.Guarded
import ScheduleShape.Proofs.Pattern.Meaning

set_option autoImplicit false

namespace ScheduleShape

variable [Affine]

variable {α β : Type}

def Answers (run : Run α) : Prop :=
  ∀ memory, ∃ result after, run memory = .ok result after

theorem answers_pure (result : α) : Answers (pure result : Run α) :=
  fun memory => ⟨result, memory, rfl⟩

theorem answers_bind (run : Run α) (next : α → Run β) (first : Answers run)
    (second : ∀ result, Answers (next result)) : Answers (run >>= next) := by
  intro memory
  obtain ⟨result, between, began⟩ := first memory
  rw [bind_of_ok run next memory between result began]
  exact second result between

theorem answers_given (answer : Except Fault α) (result : α) (next : α → Run β) (given : answer = .ok result)
    (second : Answers (next result)) : Answers (liftM answer >>= next) := by
  subst given
  exact second

theorem answers_ite (answer : Bool) (yes no : Run α) (first : answer = true → Answers yes)
    (second : Answers no) : Answers (if answer then yes else no) := by
  cases answer with
  | true => exact first rfl
  | false => exact second

theorem answers_modify (change : Memory → Memory) : Answers (modify change : Run PUnit) :=
  fun memory => ⟨⟨⟩, change memory, rfl⟩

theorem capture_answers (slot : Option String) (cursor : Cursor) (undo : Undo) :
    Answers (capture slot cursor undo) := by
  intro memory
  cases slot with
  | none => exact ⟨undo, memory, rfl⟩
  | some name => exact ⟨(name, memory.slots name) :: undo, memory.put name (some cursor), rfl⟩

theorem settle_answers (lined : Run (Bool × Undo)) (first : Answers lined) : Answers (settle lined) := by
  apply answers_bind _ _ first
  rintro ⟨matched, undo⟩
  apply answers_ite _ _ _ fun _ => answers_pure true
  exact answers_bind _ _ (answers_modify undo.restore) fun _ => answers_pure false

section

variable {tree : Tree} {rooted : Prop}

theorem admits_answers (guard : Option Guard) (address : List Nat)
    (answers : ∀ held ∈ guard, held.AnswersIn tree rooted) (inside : (tree.subtreeAt address).isSome)
    (asked : address = [] → rooted) : Answers (Guard.admits guard (.inTree tree address)) := by
  cases guard with
  | none => exact answers_pure true
  | some guard => exact answers guard rfl address inside asked

mutual

theorem align_answers (pattern : Pattern) (address : List Nat) (undo : Undo)
    (answers : pattern.GuardsAnswer tree rooted) (inside : (tree.subtreeAt address).isSome)
    (asked : address = [] → rooted) : Answers (pattern.align (.inTree tree address) undo) := by
  cases pattern with
  | value held => exact answers.elim
  | node test children guard slot =>
      obtain ⟨node, here⟩ := Option.isSome_iff_exists.mp inside
      obtain ⟨passed, tested, _⟩ := passes_decides tree node address here test
      obtain ⟨fits, counted, means⟩ := fits_children_decides tree node address here children
      have refused : ∀ undo : Undo, Answers (pure (false, undo) : Run (Bool × Undo)) :=
        fun undo => answers_pure (false, undo)
      rw [Pattern.align]
      apply answers_given _ passed _ tested
      apply answers_ite _ _ _ (fun _ => ?_) (refused undo)
      apply answers_bind _ _ (admits_answers guard address answers.2 inside asked)
      intro admitted
      apply answers_ite _ _ _ (fun _ => ?_) (refused undo)
      apply answers_given _ fits _ counted
      apply answers_ite _ _ _ (fun fitting => ?_) (refused undo)
      have enough : 0 + children.length ≤ node.children.length := by
        rcases means.mp fitting with rfl | exact
        · simp
        · simp [exact, Tree.arityAt, here]
      apply answers_bind _ _ (align_forest_answers children address 0 undo node answers.1 here enough)
      rintro ⟨aligned, undo⟩
      apply answers_ite _ _ _ (fun _ => ?_) (refused undo)
      exact answers_bind _ _ (capture_answers slot _ undo) fun undo => answers_pure (true, undo)

theorem align_forest_answers (patterns : List Pattern) (address : List Nat) (index : Nat) (undo : Undo)
    (node : Tree) (answers : Pattern.ForestGuardedBy (Guard.AnswersIn tree rooted) patterns)
    (here : tree.subtreeAt address = some node) (fits : index + patterns.length ≤ node.children.length) :
    Answers (Pattern.alignForest patterns (.inTree tree address) index undo) := by
  cases patterns with
  | nil => exact answers_pure (true, undo)
  | cons pattern patterns =>
      rw [List.length_cons] at fits
      have child := (subtree_at_child tree node address index here).mpr (by omega)
      rw [Pattern.alignForest, Cursor.follow_in_tree]
      apply answers_bind _ _ (align_answers pattern (address ++ [index]) undo answers.1 child (by simp))
      rintro ⟨aligned, undo⟩
      apply answers_ite _ _ _ (fun _ => ?_) (answers_pure (false, undo))
      exact align_forest_answers patterns address (index + 1) undo node answers.2 here (by omega)

end

theorem is_matching_at (pattern : Pattern) (cursor : Cursor) (answers : pattern.GuardsAnswer tree rooted) :
    pattern.isMatching (.cursor cursor) = pattern.matchAt cursor := by
  cases pattern with
  | value held => exact answers.elim
  | node test children guard slot => exact Pattern.is_matching_reached test children guard slot _ cursor rfl

theorem match_answers (pattern : Pattern) (address : List Nat) (answers : pattern.GuardsAnswer tree rooted)
    (inside : (tree.subtreeAt address).isSome) (asked : address = [] → rooted) :
    Answers (pattern.matchAt (.inTree tree address)) :=
  settle_answers _ (align_answers pattern address [] answers inside asked)

theorem verdict_answers (pattern : Pattern) (address : List Nat) (fromNode : pattern.FromNode)
    (answers : pattern.GuardsAnswer tree rooted) (inside : (tree.subtreeAt address).isSome)
    (asked : address = [] → rooted) : ∃ answer, pattern.verdict (.inTree tree address) = .ok answer := by
  obtain ⟨answer, after, ended⟩ := match_answers pattern address answers inside asked .empty
  exact ⟨answer, shows_of_ok id _ _ (match_at_shows pattern _ fromNode) .empty after answer ended⟩

theorem guard_answers (guard : Guard) (fromNode : guard.Throughout (fun _ => True) NodeTest.FromNode)
    (answers : guard.Throughout (fun _ => False) (NodeTest.AnswersIn tree rooted)) :
    guard.AnswersIn tree rooted := by
  intro address inside asked memory
  obtain ⟨answer, reached, _⟩ := guard_verdict_decides tree rooted guard address answers inside asked
  have shown := holds_shows guard (.inTree tree address) fromNode
  rw [reached] at shown
  obtain ⟨result, after, ended, _⟩ := shows_ok id _ _ shown memory
  exact ⟨result, after, ended⟩

mutual

theorem guards_answer (pattern : Pattern) (fromNode : pattern.FromNode)
    (answers : pattern.AnswersIn tree rooted) : pattern.GuardsAnswer tree rooted := by
  cases pattern with
  | value held => exact answers.elim
  | node test children guard slot =>
      refine ⟨forest_guards_answer children fromNode.1 answers.1, ?_⟩
      rintro held rfl
      exact guard_answers held fromNode.2 answers.2

theorem forest_guards_answer (patterns : List Pattern)
    (fromNode : Pattern.ForestThroughout (fun _ => True) NodeTest.FromNode patterns)
    (answers : Pattern.ForestThroughout (fun _ => False) (NodeTest.AnswersIn tree rooted) patterns) :
    Pattern.ForestGuardedBy (Guard.AnswersIn tree rooted) patterns := by
  cases patterns with
  | nil => trivial
  | cons pattern patterns =>
      exact ⟨guards_answer pattern fromNode.1 answers.1, forest_guards_answer patterns fromNode.2 answers.2⟩

end

end

end ScheduleShape
