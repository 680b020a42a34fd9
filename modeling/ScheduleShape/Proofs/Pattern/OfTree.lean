import ScheduleShape.Pattern.Builder
import ScheduleShape.Pattern.Match
import ScheduleShape.Proofs.Pattern.Grammar
import ScheduleShape.Proofs.Pattern.Meaning
import ScheduleShape.Tree.Shape

set_option autoImplicit false

namespace ScheduleShape

section

variable [Affine]

namespace Tree

mutual

def mould : Tree → Pattern
  | carrier kind _ children => .node (.exactly (.carrier kind)) (moulds children) none none
  | group kind children => .node (.exactly (.group kind)) (moulds children) none none
  | leaf => .node (.exactly .leaf) [] none none

def moulds : List Tree → List Pattern
  | [] => []
  | tree :: trees => tree.mould :: moulds trees

end

@[simp]
theorem moulds_length (trees : List Tree) : (moulds trees).length = trees.length := by
  induction trees with
  | nil => rfl
  | cons tree trees ih => rw [moulds, List.length_cons, ih, List.length_cons]

theorem mould_node (tree : Tree) :
    tree.mould = .node (.exactly tree.kind) (moulds tree.children) none none := by
  cases tree <;> rfl

theorem moulds_are_nodes (trees : List Tree) : ∀ part ∈ moulds trees, part.IsNode := by
  induction trees with
  | nil => exact fun _ among => nomatch among
  | cons tree trees ih =>
      refine List.forall_mem_cons.mpr ⟨?_, ih⟩
      rw [mould_node]
      trivial

theorem build_moulds (builder : Builder) (trees : List Tree) (taken : builder.Takes .nothing trees.length) :
    Pattern.build builder ((moulds trees).map .pattern) = .ok (.node builder.test (moulds trees) none none) := by
  apply Pattern.build_of_accepts builder _ .nothing (moulds trees)
  rw [← moulds_length] at taken
  exact ⟨rfl, moulds_are_nodes trees, taken⟩

mutual

theorem to_pattern_builds (tree : Tree) (regular : tree.Regular) : tree.toPattern = .ok tree.mould := by
  cases tree with
  | carrier kind payload children =>
      rw [toPattern, to_patterns_build children regular.2]
      exact build_moulds (.single kind) children regular.1
  | group kind children =>
      rw [toPattern, to_patterns_build children regular.2]
      exact build_moulds (.many kind) children (.inl (List.length_pos_iff.mpr regular.1))
  | leaf => rfl

theorem to_patterns_build (trees : List Tree) (regular : ForestRegular trees) :
    toPatterns trees = .ok (moulds trees) := by
  cases trees with
  | nil => rfl
  | cons tree trees =>
      rw [toPatterns, to_pattern_builds tree regular.1, to_patterns_build trees regular.2]
      rfl

end

section

variable (values : Value → Prop) (tests : NodeTest → Prop)

mutual

theorem mould_throughout (tree : Tree) : tree.mould.Throughout values tests := by
  cases tree with
  | carrier kind payload children => exact ⟨moulds_throughout children, trivial⟩
  | group kind children => exact ⟨moulds_throughout children, trivial⟩
  | leaf => exact ⟨trivial, trivial⟩

theorem moulds_throughout (trees : List Tree) : Pattern.ForestThroughout values tests (moulds trees) := by
  cases trees with
  | nil => trivial
  | cons tree trees => exact ⟨mould_throughout tree, moulds_throughout trees⟩

end

end

theorem leaf_of_childless (tree : Tree) (regular : tree.Regular) (childless : tree.children = []) :
    tree = leaf := by
  cases tree with
  | carrier kind payload children =>
      have counted : children.length = 1 := regular.1
      rw [show children = [] from childless] at counted
      cases counted
  | group kind children => exact absurd childless regular.1
  | leaf => rfl

theorem mould_matches_of_children (tree root : Tree) (address : List Nat) (regular : tree.Regular)
    (below : ∀ node, root.subtreeAt address = some node →
      (Pattern.MatchesFrom root (moulds tree.children) address 0 ↔
        ∀ (index : Nat) (child : Tree), tree.children[index]? = some child →
          ∃ twin, node.children[0 + index]? = some twin ∧ child.SameShape twin)) :
    tree.mould.Matches root address ↔ ∃ node, root.subtreeAt address = some node ∧ tree.SameShape node := by
  rw [mould_node, Pattern.Matches]
  constructor
  · rintro ⟨⟨node, here, kind⟩, _, lined⟩
    refine ⟨node, here, same_shape_iff.mpr ⟨kind, ?_⟩⟩
    rcases lined with none | ⟨counted, matched⟩
    · have childless : tree.children = [] := by
        rw [← List.length_eq_zero_iff, ← moulds_length, none, List.length_nil]
      have top := leaf_of_childless tree regular childless
      subst top
      cases node with
      | leaf => exact ⟨rfl, fun index child found => by cases found⟩
      | _ => cases kind
    · rw [moulds_length, arityAt, here] at counted
      refine ⟨counted, fun index child found => ?_⟩
      simpa using (below node here).mp matched index child found
  · rintro ⟨node, here, alike⟩
    obtain ⟨kind, counted, children⟩ := same_shape_iff.mp alike
    refine ⟨⟨node, here, kind⟩, trivial, .inr ⟨?_, ?_⟩⟩
    · rw [moulds_length, arityAt, here]
      exact counted
    · refine (below node here).mpr fun index child found => ?_
      simpa using children index child found

mutual

theorem mould_matches_iff (tree root : Tree) (address : List Nat) (regular : tree.Regular) :
    tree.mould.Matches root address ↔ ∃ node, root.subtreeAt address = some node ∧ tree.SameShape node := by
  apply mould_matches_of_children tree root address regular
  intro node here
  cases tree with
  | carrier kind payload children => exact moulds_match_iff children root address 0 node regular.2 here
  | group kind children => exact moulds_match_iff children root address 0 node regular.2 here
  | leaf => simp [Tree.children, moulds, Pattern.MatchesFrom]

theorem moulds_match_iff (trees : List Tree) (root : Tree) (address : List Nat) (index : Nat) (node : Tree)
    (regular : ForestRegular trees) (here : root.subtreeAt address = some node) :
    Pattern.MatchesFrom root (moulds trees) address index ↔
      ∀ (offset : Nat) (child : Tree), trees[offset]? = some child →
        ∃ twin, node.children[index + offset]? = some twin ∧ child.SameShape twin := by
  cases trees with
  | nil => simp [moulds, Pattern.MatchesFrom]
  | cons tree trees =>
      have first := mould_matches_iff tree root (address ++ [index]) regular.1
      have others := moulds_match_iff trees root address (index + 1) node regular.2 here
      rw [subtree_at_index root node address index here] at first
      rw [moulds, Pattern.MatchesFrom, first, others]
      constructor
      · rintro ⟨top, rest⟩ offset child found
        cases offset with
        | zero =>
            cases found
            exact top
        | succ offset =>
            rw [Nat.add_comm offset 1, ← Nat.add_assoc]
            exact rest offset child found
      · intro each
        refine ⟨each 0 tree rfl, fun offset child found => ?_⟩
        rw [Nat.add_assoc, Nat.add_comm 1 offset]
        exact each (offset + 1) child found

end

theorem mould_decides (tree other : Tree) (regular : tree.Regular) (memory : Memory) :
    ∃ answer after, tree.mould.isMatching (.tree other) memory = .ok answer after
      ∧ (answer = true ↔ tree.SameShape other) := by
  have judged := verdict_decides other True tree.mould [] (mould_throughout _ _ tree) rfl fun _ => trivial
  obtain ⟨answer, reached, means⟩ := decides_iff judged (mould_matches_iff tree other [] regular)
  have shown := match_at_shows tree.mould (.inTree other []) (mould_throughout _ _ tree)
  rw [reached] at shown
  obtain ⟨result, after, ended, rfl⟩ := shows_ok id _ _ shown memory
  refine ⟨result, after, ?_, means.trans (by simp [subtreeAt])⟩
  rw [mould_node] at ended ⊢
  rw [Pattern.is_matching_reached _ _ _ _ (.tree other) (.inTree other []) rfl]
  exact ended

/-- The builders make a pattern of any tree whose groups have children and whose other nodes have one
each. It matches the trees that have the same kinds and child counts at every address and no others,
so it tells the tree from any tree of another shape. -/
theorem pattern_pins_shape (tree : Tree) (regular : tree.Regular) :
    ∃ pattern, tree.toPattern = .ok pattern
      ∧ (∀ other memory, ∃ answer after, pattern.isMatching (.tree other) memory = .ok answer after
        ∧ (answer = true ↔ tree.SameShape other))
      ∧ ∀ other, ¬ tree.SameShape other → ∀ memory,
        (∃ after, pattern.isMatching (.tree tree) memory = .ok true after)
          ∧ ∃ after, pattern.isMatching (.tree other) memory = .ok false after := by
  have decided := fun other memory => mould_decides tree other regular memory
  refine ⟨tree.mould, to_pattern_builds tree regular, decided, fun other apart memory => ⟨?_, ?_⟩⟩
  · obtain ⟨answer, after, ended, means⟩ := decided tree memory
    rw [means.mpr tree.same_shape_refl] at ended
    exact ⟨after, ended⟩
  · obtain ⟨answer, after, ended, means⟩ := decided other memory
    cases answer with
    | true => exact absurd (means.mp rfl) apart
    | false => exact ⟨after, ended⟩

end Tree

end

namespace Tree

def filtersAndBareMark : Tree :=
  carrier .domain (.value .null) [group .sequence
    [carrier .filter (.value (.int 1)) [leaf], carrier .filter (.value (.int 2)) [leaf],
      carrier .mark (.value (.text "end")) []]]

theorem pattern_pins_shape_filters_and_mark :
    filtersAndMark.Regular ∧ ¬ filtersAndMark.SameShape filtersAndBareMark
      ∧ ∃ pattern, filtersAndMark.toPattern = .ok pattern
        ∧ (∀ other memory, ∃ answer after, pattern.isMatching (.tree other) memory = .ok answer after
          ∧ (answer = true ↔ filtersAndMark.SameShape other))
        ∧ ∀ other, ¬ filtersAndMark.SameShape other → ∀ memory,
          (∃ after, pattern.isMatching (.tree filtersAndMark) memory = .ok true after)
            ∧ ∃ after, pattern.isMatching (.tree other) memory = .ok false after := by
  have regular : filtersAndMark.Regular :=
    ⟨rfl, ⟨by simp, ⟨rfl, trivial, trivial⟩, ⟨rfl, trivial, trivial⟩, ⟨rfl, trivial, trivial⟩, trivial⟩, trivial⟩
  have apart : ¬ filtersAndMark.SameShape filtersAndBareMark := by
    intro alike
    have marks : some (Kind.carrier .mark, 1) = some (Kind.carrier .mark, 0) := alike [0, 2]
    cases marks
  exact ⟨regular, apart, pattern_pins_shape filtersAndMark regular⟩

end Tree

end ScheduleShape
