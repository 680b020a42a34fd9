import ScheduleShape.Affine.Boxes
import ScheduleShape.Pattern.Meaning
import ScheduleShape.Proofs.Cursor.InTree
import ScheduleShape.Proofs.Pattern.Verdict

set_option autoImplicit false

namespace ScheduleShape

section

def Decides (verdict : Except Fault Bool) (claim : Prop) : Prop :=
  ∃ answer, verdict = .ok answer ∧ (answer = true ↔ claim)

section

variable {verdict other : Except Fault Bool} {claim further : Prop}

theorem decides_iff (decided : Decides verdict claim) (same : claim ↔ further) :
    Decides verdict further := by
  obtain ⟨answer, reached, means⟩ := decided
  exact ⟨answer, reached, means.trans same⟩

theorem decides_not (decided : Decides verdict claim) :
    Decides (do pure !(← verdict)) (¬ claim) := by
  obtain ⟨answer, rfl, means⟩ := decided
  refine ⟨!answer, rfl, ?_⟩
  rw [← means]
  cases answer <;> simp

theorem decides_and (decided : Decides verdict claim) (next : claim → Decides other further) :
    Decides (verdict <&&> other) (claim ∧ further) := by
  obtain ⟨answer, rfl, means⟩ := decided
  cases answer with
  | true =>
      have holds := means.mp rfl
      exact decides_iff (next holds) ⟨fun also => ⟨holds, also⟩, And.right⟩
  | false => exact ⟨false, rfl, by simp [← means]⟩

theorem decides_or (decided : Decides verdict claim) (next : Decides other further) :
    Decides (verdict <||> other) (claim ∨ further) := by
  obtain ⟨answer, rfl, means⟩ := decided
  cases answer with
  | true => exact ⟨true, rfl, by simp [means.mp rfl]⟩
  | false => exact decides_iff next (by simp [← means])

end

theorem exists_last_iff {claim : List Nat → Nat → Nat → Prop} (parent : List Nat) (index : Nat) :
    (∃ above last other, parent ++ [index] = above ++ [last] ∧ claim above last other) ↔
      ∃ other, claim parent index other := by
  constructor
  · rintro ⟨above, last, other, same, holds⟩
    obtain ⟨rfl, lasts⟩ := List.append_inj' same rfl
    cases lasts
    exact ⟨other, holds⟩
  · rintro ⟨other, holds⟩
    exact ⟨parent, index, other, rfl, holds⟩

variable [Affine]

theorem decides_first {α : Type} (judge : Cursor → Except Fault Bool) (place : α → Cursor)
    (holds : α → Prop) (items : List α)
    (decided : ∀ item ∈ items, Decides (judge (place item)) (holds item)) :
    Decides (firstVerdict judge (items.map place)) (∃ item ∈ items, holds item) := by
  induction items with
  | nil => exact ⟨false, rfl, by simp⟩
  | cons item items ih =>
      apply decides_iff (decides_or (decided item List.mem_cons_self)
        (ih fun other member => decided other (List.mem_cons_of_mem item member)))
      simp

theorem passes_decides (tree node : Tree) (address : List Nat) (inside : tree.subtreeAt address = some node)
    (test : KindTest) :
    Decides (test.passes (.inTree tree address))
      (∃ node, tree.subtreeAt address = some node ∧ test.Admits node.kind) := by
  cases test with
  | any => exact ⟨true, rfl, by simp [inside, KindTest.Admits]⟩
  | exactly kind =>
      refine ⟨node.kind == kind, ?_, ?_⟩
      · simp [KindTest.passes, inside]
      · simp [inside, KindTest.Admits, eq_comm (a := kind)]

theorem fits_children_decides (tree node : Tree) (address : List Nat)
    (inside : tree.subtreeAt address = some node) (patterns : List Pattern) :
    Decides (fitsChildren patterns (.inTree tree address))
      (patterns = [] ∨ patterns.length = tree.arityAt address) := by
  cases patterns with
  | nil => exact ⟨true, rfl, by simp⟩
  | cons pattern patterns =>
      refine ⟨node.children.length == (pattern :: patterns).length, ?_, ?_⟩
      · simp [fitsChildren, inside]
      · simp [Tree.arityAt, inside, eq_comm (a := node.children.length)]

section

variable (tree : Tree) (judge : Cursor → Except Fault Bool) (holds : List Nat → Prop)
  (decided : ∀ parent index, (tree.subtreeAt (parent ++ [index])).isSome →
    Decides (judge (.inTree tree (parent ++ [index]))) (holds (parent ++ [index])))

include decided

theorem prev_siblings_decide (address : List Nat) (inside : (tree.subtreeAt address).isSome) :
    Decides (do firstVerdict judge (← (Cursor.inTree tree address).prevSiblings))
      (∃ parent index other, address = parent ++ [index] ∧ other < index
        ∧ holds (parent ++ [other])) := by
  rcases List.eq_nil_or_concat address with rfl | ⟨parent, index, rfl⟩
  · exact ⟨false, rfl, by simp⟩
  · rw [List.concat_eq_append] at inside ⊢
    obtain ⟨node, above, within⟩ := parent_of_child tree parent index inside
    rw [exists_last_iff, Cursor.prev_siblings_in_tree tree node parent index above]
    apply decides_iff (decides_first judge _ (fun other => holds (parent ++ [other])) _ _)
    · simp only [mem_take_range index _ _ within]
    · intro other member
      have before : other < index := (mem_take_range index _ other within).mp member
      exact decided parent other
        ((subtree_at_child tree node parent other above).mpr (Nat.lt_trans before within))

theorem next_siblings_decide (address : List Nat) (inside : (tree.subtreeAt address).isSome) :
    Decides (do firstVerdict judge (← (Cursor.inTree tree address).nextSiblings))
      (∃ parent index other, address = parent ++ [index] ∧ index < other
        ∧ other < tree.arityAt parent ∧ holds (parent ++ [other])) := by
  rcases List.eq_nil_or_concat address with rfl | ⟨parent, index, rfl⟩
  · exact ⟨false, rfl, by simp⟩
  · rw [List.concat_eq_append] at inside ⊢
    obtain ⟨node, above, within⟩ := parent_of_child tree parent index inside
    rw [exists_last_iff, Cursor.next_siblings_in_tree tree node parent index above]
    apply decides_iff (decides_first judge _ (fun other => holds (parent ++ [other])) _ _)
    · simp [mem_drop_range, Tree.arityAt, above, and_assoc]
    · intro other member
      have within := ((mem_drop_range index _ other).mp member).2
      exact decided parent other ((subtree_at_child tree node parent other above).mpr within)

theorem descendants_decide (address : List Nat) (inside : (tree.subtreeAt address).isSome) :
    Decides (do firstVerdict judge (← (Cursor.inTree tree address).descendants))
      (∃ rest, rest ≠ [] ∧ (tree.subtreeAt (address ++ rest)).isSome ∧ holds (address ++ rest)) := by
  obtain ⟨node, here⟩ := Option.isSome_iff_exists.mp inside
  have below := fun rest => mem_below tree node address rest here
  rw [Cursor.descendants_in_tree tree node address here]
  apply decides_iff (decides_first judge _ (fun rest => holds (address ++ rest)) _ _)
  · simp [below, and_assoc]
  · intro rest member
    obtain ⟨proper, found⟩ := (below rest).mp member
    rcases List.eq_nil_or_concat rest with rfl | ⟨front, last, rfl⟩
    · exact absurd rfl proper
    · rw [List.concat_eq_append, ← List.append_assoc] at found ⊢
      exact decided (address ++ front) last found

end

theorem holds_sibling_iff (tree : Tree) (sibling : Pattern) (address : List Nat)
    (inside : (tree.subtreeAt address).isSome) :
    (Guard.prevSibling sibling).Holds tree address ∨ (Guard.nextSibling sibling).Holds tree address ↔
      (Guard.sibling sibling).Holds tree address := by
  simp only [Guard.Holds]
  rcases List.eq_nil_or_concat address with rfl | ⟨parent, index, rfl⟩
  · simp
  · rw [List.concat_eq_append] at inside ⊢
    obtain ⟨node, above, within⟩ := parent_of_child tree parent index inside
    simp only [exists_last_iff, Tree.arityAt, above]
    constructor
    · rintro (⟨other, before, holds⟩ | ⟨other, after, bound, holds⟩)
      · exact ⟨other, by omega, by omega, holds⟩
      · exact ⟨other, by omega, bound, holds⟩
    · rintro ⟨other, different, bound, holds⟩
      rcases Nat.lt_or_gt_of_ne different with before | after
      · exact .inl ⟨other, before, holds⟩
      · exact .inr ⟨other, after, bound, holds⟩

section

variable (tree : Tree) (rooted : Prop)

mutual

theorem verdict_decides (pattern : Pattern) (address : List Nat) (answers : pattern.AnswersIn tree rooted)
    (inside : (tree.subtreeAt address).isSome) (asked : address = [] → rooted) :
    Decides (pattern.verdict (.inTree tree address)) (pattern.Matches tree address) := by
  cases pattern with
  | value held => exact answers.elim
  | node test children guard slot =>
      obtain ⟨node, here⟩ := Option.isSome_iff_exists.mp inside
      have lined : children = [] ∨ children.length = tree.arityAt address →
          Decides (Pattern.forestVerdict children (.inTree tree address) 0)
            (Pattern.MatchesFrom tree children address 0) := by
        intro fits
        apply forest_verdict_decides children address 0 node answers.1 here
        rcases fits with rfl | exact
        · simp
        · simp [exact, Tree.arityAt, here]
      apply decides_iff (decides_and (passes_decides tree node address here test) fun _ =>
        decides_and (verdict_of_decides guard address answers.2 inside asked) fun _ =>
        decides_and (fits_children_decides tree node address here children) lined)
      rw [Pattern.Matches]
      refine and_congr_right fun _ => and_congr_right fun _ => ?_
      cases children with
      | nil => simp [Pattern.MatchesFrom]
      | cons child others => simp

theorem forest_verdict_decides (patterns : List Pattern) (address : List Nat) (index : Nat) (node : Tree)
    (answers : Pattern.ForestThroughout (fun _ => False) (NodeTest.AnswersIn tree rooted) patterns)
    (here : tree.subtreeAt address = some node) (fits : index + patterns.length ≤ node.children.length) :
    Decides (Pattern.forestVerdict patterns (.inTree tree address) index)
      (Pattern.MatchesFrom tree patterns address index) := by
  cases patterns with
  | nil => exact ⟨true, rfl, by simp [Pattern.MatchesFrom]⟩
  | cons pattern patterns =>
      rw [List.length_cons] at fits
      have child := (subtree_at_child tree node address index here).mpr (by omega)
      rw [Pattern.forestVerdict, Cursor.follow_in_tree]
      exact decides_and (verdict_decides pattern (address ++ [index]) answers.1 child (by simp)) fun _ =>
        forest_verdict_decides patterns address (index + 1) node answers.2 here (by omega)

theorem verdict_of_decides (guard : Option Guard) (address : List Nat)
    (answers : Guard.ThroughoutAny (fun _ => False) (NodeTest.AnswersIn tree rooted) guard)
    (inside : (tree.subtreeAt address).isSome) (asked : address = [] → rooted) :
    Decides (Guard.verdictOf guard (.inTree tree address)) (Guard.Allows tree guard address) := by
  cases guard with
  | none => exact ⟨true, rfl, by simp [Guard.Allows]⟩
  | some guard => exact guard_verdict_decides guard address answers inside asked

theorem guard_verdict_decides (guard : Guard) (address : List Nat)
    (answers : guard.Throughout (fun _ => False) (NodeTest.AnswersIn tree rooted))
    (inside : (tree.subtreeAt address).isSome) (asked : address = [] → rooted) :
    Decides (guard.verdict (.inTree tree address)) (guard.Holds tree address) := by
  cases guard with
  | prevSibling sibling =>
      exact prev_siblings_decide tree sibling.verdict (sibling.Matches tree)
        (fun parent index found => verdict_decides sibling _ answers found (by simp)) address inside
  | nextSibling sibling =>
      exact next_siblings_decide tree sibling.verdict (sibling.Matches tree)
        (fun parent index found => verdict_decides sibling _ answers found (by simp)) address inside
  | sibling sibling =>
      have decided : ∀ parent index, (tree.subtreeAt (parent ++ [index])).isSome →
          Decides (sibling.verdict (.inTree tree (parent ++ [index])))
            (sibling.Matches tree (parent ++ [index])) :=
        fun parent index found => verdict_decides sibling _ answers found (by simp)
      exact decides_iff (decides_or
        (prev_siblings_decide tree sibling.verdict (sibling.Matches tree) decided address inside)
        (next_siblings_decide tree sibling.verdict (sibling.Matches tree) decided address inside))
        (holds_sibling_iff tree sibling address inside)
  | descendant below =>
      exact descendants_decide tree below.verdict (below.Matches tree)
        (fun parent index found => verdict_decides below _ answers found (by simp)) address inside
  | matching pattern =>
      cases pattern with
      | value held => exact answers.elim
      | node test children guard slot =>
          exact verdict_decides (.node test children guard slot) address answers inside asked
  | test ask =>
      obtain ⟨answer, reached⟩ := answers address inside asked
      refine ⟨answer, reached _, ?_⟩
      constructor
      · rintro rfl
        exact reached
      · intro holds
        exact Except.ok.inj ((reached fun _ => none).symm.trans (holds _))
  | negation guard => exact decides_not (guard_verdict_decides guard address answers inside asked)
  | all guards => exact all_verdict_decides guards address answers inside asked
  | some guards => exact some_verdict_decides guards address answers inside asked
  | noted tag guard => exact guard_verdict_decides guard address answers inside asked

theorem all_verdict_decides (guards : List Guard) (address : List Nat)
    (answers : Guard.ThroughoutAll (fun _ => False) (NodeTest.AnswersIn tree rooted) guards)
    (inside : (tree.subtreeAt address).isSome) (asked : address = [] → rooted) :
    Decides (Guard.allVerdict guards (.inTree tree address)) (Guard.AllHold tree guards address) := by
  cases guards with
  | nil => exact ⟨true, rfl, by simp [Guard.AllHold]⟩
  | cons guard guards =>
      exact decides_and (guard_verdict_decides guard address answers.1 inside asked) fun _ =>
        all_verdict_decides guards address answers.2 inside asked

theorem some_verdict_decides (guards : List Guard) (address : List Nat)
    (answers : Guard.ThroughoutAll (fun _ => False) (NodeTest.AnswersIn tree rooted) guards)
    (inside : (tree.subtreeAt address).isSome) (asked : address = [] → rooted) :
    Decides (Guard.someVerdict guards (.inTree tree address)) (Guard.SomeHolds tree guards address) := by
  cases guards with
  | nil => exact ⟨false, rfl, by simp [Guard.SomeHolds]⟩
  | cons guard guards =>
      exact decides_or (guard_verdict_decides guard address answers.1 inside asked)
        (some_verdict_decides guards address answers.2 inside asked)

end

end

section

variable (tree : Tree) (rooted : Prop)

theorem constant_answers (answer : Value) :
    (Guard.constant answer).Throughout (fun _ => False) (NodeTest.AnswersIn tree rooted) :=
  fun _ _ _ => ⟨answer.truthy, fun _ => rfl⟩

theorem index_is_answers (index : Value) (unrooted : ¬ rooted) :
    (Guard.indexIs index).Throughout (fun _ => False) (NodeTest.AnswersIn tree rooted) := by
  intro address inside asked
  rcases List.eq_nil_or_concat address with rfl | ⟨parent, last, rfl⟩
  · exact absurd (asked rfl) unrooted
  · refine ⟨(Value.int last).same index, fun slots => ?_⟩
    rw [List.concat_eq_append]
    dsimp only
    rw [Cursor.index_in_tree]
    rfl

theorem child_count_is_answers (count : Value) :
    (Guard.childCountIs count).Throughout (fun _ => False) (NodeTest.AnswersIn tree rooted) := by
  intro address inside asked
  obtain ⟨node, here⟩ := Option.isSome_iff_exists.mp inside
  refine ⟨(Value.int node.children.length).same count, fun slots => ?_⟩
  dsimp only
  rw [Cursor.child_count_in_tree tree node address here]
  rfl

theorem payload_is_answers (payload : Value)
    (comparable : ∀ address node, tree.subtreeAt address = some node →
      ∃ answer, node.payload.same (.value payload) = .ok answer) :
    (Guard.payloadIs payload).Throughout (fun _ => False) (NodeTest.AnswersIn tree rooted) := by
  intro address inside asked
  obtain ⟨node, here⟩ := Option.isSome_iff_exists.mp inside
  obtain ⟨answer, compared⟩ := comparable address node here
  refine ⟨answer, fun slots => ?_⟩
  dsimp only
  rw [Cursor.payload_in_tree tree node address here]
  exact compared

end

/-- A match on a node of a tree raises no fault and answers whether the pattern matches there,
whatever the slots hold, if the tests of its guards answer. -/
theorem is_matching_decides (pattern : Pattern) (tree : Tree) (address : List Nat) (memory : Memory)
    (inside : (tree.subtreeAt address).isSome) (fromNode : pattern.FromNode)
    (answers : pattern.AnswersIn tree (address = [])) :
    ∃ answer after, pattern.isMatching (.cursor (.inTree tree address)) memory = .ok answer after
      ∧ (answer = true ↔ pattern.Matches tree address) := by
  obtain ⟨answer, reached, means⟩ :=
    verdict_decides tree (address = []) pattern address answers inside id
  cases pattern with
  | value held => exact answers.elim
  | node test children guard slot =>
      have shown := match_at_shows (.node test children guard slot) (.inTree tree address) fromNode
      rw [reached] at shown
      obtain ⟨result, after, ended, rfl⟩ := shows_ok id _ _ shown memory
      exact ⟨result, after, ended, means⟩

end

def filtersAndMark : Tree :=
  .carrier .domain (.value .null) [.group .sequence
    [.carrier .filter (.value (.int 1)) [.leaf], .carrier .filter (.value (.int 2)) [.leaf],
      .carrier .mark (.value (.text "end")) [.leaf]]]

def filterThenMark (count : Int) : Pattern :=
  .node (.exactly (.group .sequence))
    [.node (.exactly (.carrier .filter)) []
        (some (.nextSibling (.node (.exactly (.carrier .mark)) [] none (some "mark")))) (some "last"),
      .node .any [] (some (.negation (.indexIs (.int 0)))) (some "second"),
      .node (.exactly (.carrier .mark)) [.node (.exactly .leaf) [] none none]
        (some (.childCountIs (.int count))) (some "last")]
    none (some "whole")

theorem filter_then_mark_from_node (count : Int) : (filterThenMark count).FromNode :=
  ⟨⟨⟨trivial, trivial, trivial⟩, ⟨trivial, fun _ _ _ => rfl⟩,
    ⟨⟨⟨trivial, trivial⟩, trivial⟩, fun _ _ _ => rfl⟩, trivial⟩, trivial⟩

theorem is_matching_decides_below_domain :
    (filtersAndMark.subtreeAt [0]).isSome ∧ (filterThenMark 1).FromNode
      ∧ (filterThenMark 1).AnswersIn filtersAndMark ([0] = [])
      ∧ ∃ answer after, (filterThenMark 1).isMatching (.cursor (.inTree filtersAndMark [0])) .empty
          = .ok answer after ∧ (answer = true ↔ (filterThenMark 1).Matches filtersAndMark [0]) := by
  have answers : (filterThenMark 1).AnswersIn filtersAndMark ([0] = []) :=
    ⟨⟨⟨trivial, trivial, trivial⟩, ⟨trivial, index_is_answers _ _ _ (by simp)⟩,
      ⟨⟨⟨trivial, trivial⟩, trivial⟩, child_count_is_answers _ _ _⟩, trivial⟩, trivial⟩
  exact ⟨rfl, filter_then_mark_from_node 1, answers,
    is_matching_decides _ _ _ _ rfl (filter_then_mark_from_node 1) answers⟩

end ScheduleShape
