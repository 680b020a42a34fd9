import ScheduleShape.Affine.Boxes
import ScheduleShape.Cursor.Travel
import ScheduleShape.Proofs.Cursor.Travel

set_option autoImplicit false

namespace ScheduleShape

section

theorem range_around (index count : Nat) (small : index < count) :
    List.range count = (List.range count).take index ++ index :: (List.range count).drop (index + 1) := by
  have within : index < (List.range count).length := by rwa [List.length_range]
  have behind : (List.range count).drop index = index :: (List.range count).drop (index + 1) := by
    rw [List.drop_eq_getElem_cons within, List.getElem_range]
  rw [← behind, List.take_append_drop]

variable [Affine]

theorem forest_step_outside (trees : List Tree) (position : Int)
    (outside : ¬ (0 ≤ position ∧ position < trees.length)) :
    (Holding.forest trees).step (some position) = .error .cursorOutOfRange := by
  by_cases negative : position < 0
  · simp [Holding.step, negative]
  · have past : ¬ position < trees.length := by omega
    simp [Holding.step, Holding.size, negative, past]

namespace Cursor

section

variable (tree : Tree) (above : List Nat) (index : Nat)

theorem next_enters (distance : Int) :
    (inTree tree (above ++ [index])).next distance
      = (inTree tree above).enter .children (some (index + distance)) := by
  rw [next, last_step_in_tree]
  change (inTree tree (above ++ [index])).up.enter .children (some (index + distance)) = _
  rw [up_in_tree]

variable (node : Tree) (up : tree.subtreeAt above = some node)

include up

theorem next_ok_iff (distance : Int) (other : Cursor) :
    (inTree tree (above ++ [index])).next distance = .ok other ↔
      ∃ sibling : Nat, index + distance = sibling ∧ sibling < node.children.length
        ∧ other = inTree tree (above ++ [sibling]) := by
  rw [next_enters, enter_in_tree_iff tree node above up]

theorem next_succeeds_iff (distance : Int) :
    (∃ other, (inTree tree (above ++ [index])).next distance = .ok other) ↔
      0 ≤ index + distance ∧ index + distance < node.children.length := by
  simp only [next_ok_iff tree above index node up]
  constructor
  · intro moved
    obtain ⟨other, sibling, reached, small, _⟩ := moved
    omega
  · intro within
    exact ⟨_, (index + distance).toNat, by omega, by omega, rfl⟩

theorem next_goes_on (distance : Int) (other : Cursor)
    (moved : (inTree tree (above ++ [index])).next distance = .ok other) (more : Int) :
    other.next more = (inTree tree (above ++ [index])).next (distance + more) := by
  obtain ⟨sibling, reached, _, rfl⟩ := (next_ok_iff tree above index node up distance other).mp moved
  rw [next_enters, next_enters, ← reached, Int.add_assoc]

theorem mem_next_siblings (other : Cursor) :
    (other ∈ ((List.range node.children.length).drop (index + 1)).map fun sibling =>
        inTree tree (above ++ [sibling])) ↔
      ∃ distance, 1 ≤ distance ∧ (inTree tree (above ++ [index])).next distance = .ok other := by
  simp only [List.mem_map, mem_drop_range, next_ok_iff tree above index node up]
  constructor
  · intro listed
    obtain ⟨sibling, ⟨behind, within⟩, same⟩ := listed
    exact ⟨sibling - index, by omega, sibling, by omega, within, same.symm⟩
  · intro moved
    obtain ⟨distance, onward, sibling, reached, within, same⟩ := moved
    exact ⟨sibling, ⟨by omega, within⟩, same.symm⟩

variable (small : index < node.children.length)

include small

theorem next_refused (distance : Int) (fault : Fault)
    (failed : (inTree tree (above ++ [index])).next distance = .error fault) : fault = .cursorOutOfRange := by
  by_cases within : 0 ≤ index + distance ∧ index + distance < node.children.length
  · obtain ⟨other, moved⟩ := (next_succeeds_iff tree above index node up distance).mpr within
    cases moved.symm.trans failed
  · rw [next_enters, enter, found_in_tree tree node above up] at failed
    simp only [bind, Except.bind, part_of_child node index small,
      forest_step_outside node.children _ within] at failed
    cases failed
    rfl

theorem next_and_back (distance : Int) (other : Cursor)
    (moved : (inTree tree (above ++ [index])).next distance = .ok other) :
    other.prev distance = .ok (inTree tree (above ++ [index])) := by
  rw [prev, next_goes_on tree above index node up distance other moved, Int.add_right_neg]
  exact (next_ok_iff tree above index node up 0 _).mpr ⟨index, by omega, small, rfl⟩

theorem mem_prev_siblings (other : Cursor) :
    (other ∈ ((List.range node.children.length).take index).map fun sibling => inTree tree (above ++ [sibling])) ↔
      ∃ distance, 1 ≤ distance ∧ (inTree tree (above ++ [index])).prev distance = .ok other := by
  simp only [List.mem_map, mem_take_range index _ _ small, prev, next_ok_iff tree above index node up]
  constructor
  · intro listed
    obtain ⟨sibling, before, same⟩ := listed
    exact ⟨index - sibling, by omega, sibling, by omega, by omega, same.symm⟩
  · intro moved
    obtain ⟨distance, onward, sibling, reached, _, same⟩ := moved
    exact ⟨sibling, by omega, same.symm⟩

theorem between_in_tree :
    (inTree tree (above ++ [index])).Between (inTree tree above) index node.children.length
      (((List.range node.children.length).take index).map fun sibling => inTree tree (above ++ [sibling]))
      (((List.range node.children.length).drop (index + 1)).map fun sibling => inTree tree (above ++ [sibling]))
    where
  under := parent_in_tree tree above index
  place := index_in_tree tree above index
  counted := child_count_in_tree tree node above up
  earlier := prev_siblings_in_tree tree node above index up
  later := next_siblings_in_tree tree node above index up
  listed := by
    have around := congrArg (List.map fun sibling => inTree tree (above ++ [sibling]))
      (range_around index node.children.length small)
    rw [List.map_append, List.map_cons] at around
    rw [children_in_tree tree node above up, around]
  onward := next_succeeds_iff tree above index node up
  refused := next_refused tree above index node up small
  backward _ := rfl
  further distance other moved :=
    ⟨next_goes_on tree above index node up distance other moved,
      next_and_back tree above index node up small distance other moved⟩
  amongEarlier := mem_prev_siblings tree above index node up small
  amongLater := mem_next_siblings tree above index node up

end

/-- Wherever a travel through a tree ends, the siblings before the cursor, the cursor and the siblings after it
are the children of its parent. A distance leads to one of them just when the index that it comes to is that of
a child, distances add up, and the siblings on either side are what the distances from one on lead to. A root
has no siblings and moves nowhere. -/
theorem siblings_around (tree : Tree) (moves : List Move) (cursor : Cursor)
    (travelled : (startTree tree).travel moves = .ok cursor) :
    (cursor.isRoot = true → cursor.prevSiblings = .ok [] ∧ cursor.nextSiblings = .ok []
      ∧ ∀ distance, cursor.next distance = .error .rootCannotMove ∧ cursor.prev distance = .error .rootCannotMove)
    ∧ (cursor.isRoot = false → ∃ parent index count before after,
      cursor.Between parent index count before after) := by
  have begun : Within tree (startTree tree) := within_at tree [] rfl
  obtain ⟨address, node, inside, rfl⟩ := travel_within tree (startTree tree) begun moves cursor travelled
  rcases root_or_child tree address (by rw [inside]; rfl) with top | ⟨above, index, parent, rfl, up, small⟩
  · subst top
    exact ⟨fun _ => ⟨rfl, rfl, fun _ => ⟨rfl, rfl⟩⟩, fun inner => (nomatch inner)⟩
  · have inner : (inTree tree (above ++ [index])).isRoot = false := by simp [isRoot, inTree, stepsOf]
    refine ⟨fun top => ?_, fun _ => ?_⟩
    · rw [inner] at top
      cases top
    · exact ⟨_, _, _, _, _, between_in_tree tree above index parent up small⟩

end Cursor

end

namespace Cursor

def threeLeaves : Tree := .group .sequence [.leaf, .leaf, .leaf]

theorem siblings_around_three_leaves :
    (startTree threeLeaves).travel [.child 2, .next (-1)] = .ok (inTree threeLeaves [1])
      ∧ (∃ parent index count before after, (inTree threeLeaves [1]).Between parent index count before after
        ∧ before = [inTree threeLeaves [0]] ∧ after = [inTree threeLeaves [2]])
      ∧ (startTree threeLeaves).travel [.child 0, .parent] = .ok (inTree threeLeaves [])
      ∧ (inTree threeLeaves []).next 0 = .error .rootCannotMove := by
  have second : (startTree threeLeaves).travel [.child 2, .next (-1)] = .ok (inTree threeLeaves [1]) := rfl
  have top : (startTree threeLeaves).travel [.child 0, .parent] = .ok (inTree threeLeaves []) := rfl
  have atTop := (siblings_around threeLeaves _ _ top).1 rfl
  obtain ⟨parent, index, count, before, after, between⟩ := (siblings_around threeLeaves _ _ second).2 rfl
  refine ⟨second, ⟨parent, index, count, before, after, between, ?_, ?_⟩, top, (atTop.2.2 0).1⟩
  · exact (Except.ok.inj between.earlier).symm
  · exact (Except.ok.inj between.later).symm

end Cursor

end ScheduleShape
