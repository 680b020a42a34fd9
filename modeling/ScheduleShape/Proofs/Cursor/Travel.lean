import ScheduleShape.Affine.Boxes
import ScheduleShape.Cursor.Travel
import ScheduleShape.Proofs.Cursor.InTree

set_option autoImplicit false

namespace ScheduleShape

section

theorem mem_of_pick {α : Type} (container : String) (items : List α) (position : Int) (item : α)
    (picked : pick container items position = .ok item) : item ∈ items := by
  rw [pick] at picked
  cases found : pick? items position with
  | none =>
      rw [found] at picked
      cases picked
  | some other =>
      rw [found] at picked
      cases picked
      rw [pick?] at found
      split at found
      · cases found
      · exact List.mem_of_getElem? found

variable [Affine]

theorem forest_step_iff (trees : List Tree) (position : Int) (step : Step) :
    (Holding.forest trees).step (some position) = .ok step ↔
      0 ≤ position ∧ position < trees.length ∧ step = .child position := by
  by_cases negative : position < 0
  · have notFront : ¬ 0 ≤ position := by omega
    simp [Holding.step, negative, notFront]
  · have front : 0 ≤ position := by omega
    by_cases within : position < trees.length
    · simp [Holding.step, Holding.size, negative, front, within, eq_comm]
    · simp [Holding.step, Holding.size, negative, within]

theorem part_children (node : Tree) (holding : Holding)
    (parted : (Item.tree node).part .children = .ok holding) : holding = .forest node.children := by
  cases node with
  | carrier kind payload children =>
      cases parted
      rfl
  | group kind children =>
      cases parted
      rfl
  | leaf => cases parted

theorem part_of_child (node : Tree) (index : Nat) (within : index < node.children.length) :
    (Item.tree node).part .children = .ok (.forest node.children) := by
  cases node with
  | carrier kind payload children => rfl
  | group kind children => rfl
  | leaf => simp [Tree.children] at within

theorem inside_above (tree : Tree) (above below : List Nat)
    (inside : (tree.subtreeAt (above ++ below)).isSome) : (tree.subtreeAt above).isSome := by
  rw [Tree.subtree_at_append] at inside
  exact Option.isSome_of_isSome_bind inside

theorem root_or_child (tree : Tree) (address : List Nat) (inside : (tree.subtreeAt address).isSome) :
    address = [] ∨ ∃ above index node, address = above ++ [index]
      ∧ tree.subtreeAt above = some node ∧ index < node.children.length := by
  rcases List.eq_nil_or_concat address with root | ⟨above, index, last⟩
  · exact .inl root
  · rw [List.concat_eq_append] at last
    subst last
    obtain ⟨node, found, small⟩ := parent_of_child tree above index inside
    exact .inr ⟨above, index, node, rfl, found, small⟩

namespace Cursor

theorem parent_in_tree (tree : Tree) (above : List Nat) (index : Nat) :
    (inTree tree (above ++ [index])).parent = .ok (inTree tree above) := by
  rw [parent, up_in_tree]
  simp [isRoot, inTree, stepsOf]

section

variable (tree node : Tree) (address : List Nat) (inside : tree.subtreeAt address = some node)

include inside

theorem enter_in_tree_iff (position : Int) (other : Cursor) :
    (inTree tree address).enter .children (some position) = .ok other ↔
      ∃ index : Nat, position = index ∧ index < node.children.length
        ∧ other = inTree tree (address ++ [index]) := by
  have found := found_in_tree tree node address inside
  rw [enter, found]
  simp only [both_ok_iff]
  constructor
  · rintro ⟨_, same, holding, parted, step, stepped, item, _, ended⟩
    cases same
    cases part_children node holding parted
    obtain ⟨front, within, rfl⟩ := (forest_step_iff _ _ _).mp stepped
    obtain ⟨index, rfl⟩ := Int.eq_ofNat_of_zero_le front
    cases ended
    exact ⟨index, rfl, by omega, follow_in_tree tree address index⟩
  · rintro ⟨index, rfl, within, rfl⟩
    have stepped := (forest_step_iff node.children index (.child index)).mpr ⟨by omega, by omega, rfl⟩
    have there := item_step_child node _ index (List.getElem?_eq_getElem within)
    exact ⟨_, rfl, _, part_of_child node index within, _, stepped, _, there,
      congrArg Except.ok (follow_in_tree tree address index)⟩

theorem enter_outside (position : Int)
    (outside : ¬ (0 ≤ position ∧ position < node.children.length)) (other : Cursor) :
    (inTree tree address).enter .children (some position) ≠ .ok other := by
  intro entered
  obtain ⟨index, rfl, small, _⟩ := (enter_in_tree_iff tree node address inside position other).mp entered
  exact outside ⟨by omega, by omega⟩

theorem child_in_tree_iff (position : Int) (other : Cursor) :
    (inTree tree address).child position = .ok other ↔
      ∃ index : Nat, position = index ∧ index < node.children.length
        ∧ other = inTree tree (address ++ [index]) := by
  rw [← enter_in_tree_iff tree node address inside, child]
  by_cases negative : position < 0
  · have outside := enter_outside tree node address inside position (by omega) other
    simp [negative, outside]
  · rw [if_neg negative, child_count_in_tree tree node address inside]
    by_cases within : position < node.children.length
    · simp [within]
    · have outside := enter_outside tree node address inside position (by omega) other
      simp [within, outside]

theorem stands_in_tree : (inTree tree address).Stands tree address node where
  root := rfl
  path := rfl
  inRange above index below split := by
    subst split
    apply parent_of_child tree above index
    apply inside_above tree (above ++ [index]) below
    rw [List.append_assoc]
    exact Option.isSome_iff_exists.mpr ⟨node, inside⟩
  walked := walk_steps_of tree node address inside
  found := found_in_tree tree node address inside
  kind := kind_in_tree tree node address inside
  childCount := child_count_in_tree tree node address inside
  children := ⟨_, children_in_tree tree node address inside, by simp⟩
  back position front within := by
    obtain ⟨index, rfl⟩ := Int.eq_ofNat_of_zero_le front
    have entered := (child_in_tree_iff tree node address inside index _).mpr ⟨index, rfl, by omega, rfl⟩
    exact ⟨_, entered, parent_in_tree tree address index⟩

end

def Within (tree : Tree) (cursor : Cursor) : Prop :=
  ∃ address node, tree.subtreeAt address = some node ∧ cursor = inTree tree address

theorem within_at (tree : Tree) (address : List Nat) (inside : (tree.subtreeAt address).isSome) :
    Within tree (inTree tree address) := by
  obtain ⟨node, found⟩ := Option.isSome_iff_exists.mp inside
  exact ⟨address, node, found, rfl⟩

theorem within_child (tree node : Tree) (address : List Nat) (inside : tree.subtreeAt address = some node)
    (index : Nat) (small : index < node.children.length) :
    Within tree (inTree tree (address ++ [index])) :=
  within_at tree _ ((subtree_at_child tree node address index inside).mpr small)

theorem within_children (tree node : Tree) (address : List Nat)
    (inside : tree.subtreeAt address = some node) (indices : List Nat)
    (within : indices ⊆ List.range node.children.length) (other : Cursor)
    (among : other ∈ indices.map fun index => inTree tree (address ++ [index])) :
    Within tree other := by
  obtain ⟨index, chosen, rfl⟩ := List.mem_map.mp among
  exact within_child tree node address inside index (List.mem_range.mp (within chosen))

section

variable (tree : Tree) (cursor : Cursor) (within : Within tree cursor)

include within

theorem list_within (listing : Listing) (found : List Cursor) (listed : cursor.list listing = .ok found)
    (other : Cursor) (among : other ∈ found) : Within tree other := by
  obtain ⟨address, node, inside, rfl⟩ := within
  have place := root_or_child tree address (by rw [inside]; rfl)
  cases listing with
  | children =>
      rw [list, children_in_tree tree node address inside] at listed
      cases listed
      exact within_children tree node address inside _ (List.Subset.refl _) other among
  | prevSiblings =>
      rcases place with root | ⟨above, index, parent, rfl, up, _⟩
      · subst root
        cases listed
        cases among
      · rw [list, prev_siblings_in_tree tree parent above index up] at listed
        cases listed
        exact within_children tree parent above up _ (List.take_subset _ _) other among
  | nextSiblings =>
      rcases place with root | ⟨above, index, parent, rfl, up, _⟩
      · subst root
        cases listed
        cases among
      · rw [list, next_siblings_in_tree tree parent above index up] at listed
        cases listed
        exact within_children tree parent above up _ (List.drop_subset _ _) other among
  | descendants =>
      rw [list, descendants_in_tree tree node address inside] at listed
      cases listed
      obtain ⟨rest, below, rfl⟩ := List.mem_map.mp among
      have reached := ((Tree.mem_addresses_below node rest).mp below).2
      apply within_at
      rw [Tree.subtree_at_append, inside]
      exact reached

theorem next_within (distance : Int) (other : Cursor) (moved : cursor.next distance = .ok other) :
    Within tree other := by
  obtain ⟨address, node, inside, rfl⟩ := within
  rcases root_or_child tree address (by rw [inside]; rfl) with root | ⟨above, index, parent, rfl, up, _⟩
  · subst root
    cases moved
  · rw [next, last_step_in_tree] at moved
    change (inTree tree (above ++ [index])).up.enter .children (some (index + distance)) = _ at moved
    rw [up_in_tree, enter_in_tree_iff tree parent above up] at moved
    obtain ⟨sibling, _, small, rfl⟩ := moved
    exact within_child tree parent above up sibling small

theorem go_within (move : Move) (other : Cursor) (moved : cursor.go move = .ok other) :
    Within tree other := by
  cases move with
  | root =>
      obtain ⟨address, node, inside, rfl⟩ := within
      cases moved
      exact within_at tree [] rfl
  | parent =>
      obtain ⟨address, node, inside, rfl⟩ := within
      rcases root_or_child tree address (by rw [inside]; rfl) with root | ⟨above, index, parent, rfl, up, _⟩
      · subst root
        cases moved
      · cases (parent_in_tree tree above index).symm.trans moved
        exact ⟨above, parent, up, rfl⟩
  | child index =>
      obtain ⟨address, node, inside, rfl⟩ := within
      obtain ⟨index, _, small, rfl⟩ := (child_in_tree_iff tree node address inside index other).mp moved
      exact within_child tree node address inside index small
  | next distance => exact next_within tree cursor within distance other moved
  | prev distance => exact next_within tree cursor within (-distance) other moved
  | among listing position =>
      obtain ⟨found, listed, picked⟩ := (both_ok_iff _ _ _).mp moved
      exact list_within tree cursor within listing found listed other (mem_of_pick _ _ _ _ picked)

theorem travel_within (moves : List Move) (other : Cursor) (travelled : cursor.travel moves = .ok other) :
    Within tree other := by
  induction moves generalizing cursor with
  | nil =>
      cases travelled
      exact within
  | cons move moves ih =>
      obtain ⟨next, moved, further⟩ := (both_ok_iff _ _ _).mp travelled
      exact ih next (go_within tree cursor within move next moved) further

end

theorem travel_down (tree : Tree) (above address : List Nat)
    (inside : (tree.subtreeAt (above ++ address)).isSome) :
    (inTree tree above).travel (address.map fun (index : Nat) => .child index)
      = .ok (inTree tree (above ++ address)) := by
  induction address generalizing above with
  | nil => rw [List.append_nil]; rfl
  | cons index address ih =>
      have onward : above ++ index :: address = above ++ [index] ++ address := by simp
      rw [onward] at inside ⊢
      obtain ⟨node, up, small⟩ := parent_of_child tree above index (inside_above tree _ address inside)
      have moved := (child_in_tree_iff tree node above up index _).mpr ⟨index, rfl, small, rfl⟩
      exact (both_ok_iff _ _ _).mpr ⟨_, moved, ih (above ++ [index]) inside⟩

/-- Every travel from the root that succeeds ends at an address of the tree, where the cursor rests on the
node that its path leads to, knows its kind and its children, and comes back from each of them to itself.
Every address of the tree is the end of such a travel. -/
theorem travel_stays_in_tree (tree : Tree) :
    (∀ moves cursor, (startTree tree).travel moves = .ok cursor →
      ∃ address node, tree.subtreeAt address = some node ∧ cursor.Stands tree address node)
    ∧ ∀ address, (tree.subtreeAt address).isSome →
      ∃ moves, (startTree tree).travel moves = .ok (inTree tree address) := by
  have begun : Within tree (startTree tree) := within_at tree [] rfl
  refine ⟨?_, ?_⟩
  · intro moves cursor travelled
    obtain ⟨address, node, inside, same⟩ :=
      travel_within tree (startTree tree) begun moves cursor travelled
    subst same
    exact ⟨address, node, inside, stands_in_tree tree node address inside⟩
  · intro address inside
    exact ⟨_, travel_down tree [] address inside⟩

end Cursor

end

namespace Cursor

example :
    ((startTree (.group .sequence [.leaf, .carrier .filter (.value .null) [.leaf]])).travel
      [.among .descendants (-1), .parent, .next (-1)]).map Cursor.path = .ok [.child 0] := rfl

end Cursor

end ScheduleShape
