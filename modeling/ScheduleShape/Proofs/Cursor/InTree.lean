import ScheduleShape.Cursor.Navigate
import ScheduleShape.Tree.Address

set_option autoImplicit false

namespace ScheduleShape

theorem mem_take_range (index count other : Nat) (small : index < count) :
    other ∈ (List.range count).take index ↔ other < index := by
  rw [List.take_range, Nat.min_eq_left (Nat.le_of_lt small), List.mem_range]

theorem mem_drop_range (index count other : Nat) :
    other ∈ (List.range count).drop (index + 1) ↔ index < other ∧ other < count := by
  rw [List.range_eq_range', List.drop_range', List.mem_range'_1]
  omega

theorem Cursor.child_step_inj : Function.Injective fun (index : Nat) => Step.child index :=
  fun _ _ same => Int.ofNat.inj (Step.child.inj same)

variable [Affine]

theorem item_step_child (node child : Tree) (index : Nat) (found : node.children[index]? = some child) :
    (Item.tree node).step (.child index) = .ok (.tree child) := by
  obtain ⟨within, rfl⟩ := List.getElem?_eq_some_iff.mp found
  cases node with
  | carrier kind payload children => exact congrArg (Except.map Item.tree) (pick_at "list" within)
  | group kind children => exact congrArg (Except.map Item.tree) (pick_at "list" within)
  | leaf => cases within

theorem walk_steps_of (tree node : Tree) (address : List Nat)
    (inside : tree.subtreeAt address = some node) :
    (Item.tree tree).walk (Cursor.stepsOf address) = .ok (.tree node) := by
  induction address generalizing tree with
  | nil =>
      cases inside
      rfl
  | cons index rest ih =>
      obtain ⟨child, found, below⟩ := Option.bind_eq_some_iff.mp inside
      change ((Item.tree tree).step (.child index)).bind (·.walk (Cursor.stepsOf rest)) = _
      rw [item_step_child tree child index found]
      exact ih child below

theorem subtree_at_child (tree node : Tree) (address : List Nat) (index : Nat)
    (inside : tree.subtreeAt address = some node) :
    (tree.subtreeAt (address ++ [index])).isSome ↔ index < node.children.length := by
  rw [Tree.subtree_at_append, inside]
  simp [Tree.subtreeAt]

theorem parent_of_child (tree : Tree) (parent : List Nat) (index : Nat)
    (inside : (tree.subtreeAt (parent ++ [index])).isSome) :
    ∃ node, tree.subtreeAt parent = some node ∧ index < node.children.length := by
  cases above : tree.subtreeAt parent with
  | none => simp [Tree.subtree_at_append, above] at inside
  | some node => exact ⟨node, rfl, (subtree_at_child tree node parent index above).mp inside⟩

theorem mem_below (tree node : Tree) (address rest : List Nat) (inside : tree.subtreeAt address = some node) :
    rest ∈ node.addressesBelow ↔ rest ≠ [] ∧ (tree.subtreeAt (address ++ rest)).isSome := by
  rw [Tree.mem_addresses_below, Tree.subtree_at_append, inside, Option.bind_some]

def Placed (root : Tree) (address : List Nat) (index : Nat) (trees : List Tree) : Prop :=
  ∀ (offset : Nat) (tree : Tree), trees[offset]? = some tree →
    root.subtreeAt (address ++ [index + offset]) = some tree

theorem child_at (tree node child : Tree) (address : List Nat) (index : Nat)
    (inside : tree.subtreeAt address = some node) (found : node.children[index]? = some child) :
    tree.subtreeAt (address ++ [index]) = some child := by
  rw [Tree.subtree_at_append, inside]
  simp [Tree.subtreeAt, found]

theorem children_placed (tree node : Tree) (address : List Nat) (inside : tree.subtreeAt address = some node) :
    Placed tree address 0 node.children := by
  intro offset child found
  rw [Nat.zero_add]
  exact child_at tree node child address offset inside found

section

variable (root tree : Tree) (address : List Nat) (index : Nat) (trees : List Tree)
variable (placed : Placed root address index (tree :: trees))

include placed

theorem placed_first : root.subtreeAt (address ++ [index]) = some tree := placed 0 tree rfl

theorem placed_rest : Placed root address (index + 1) trees := by
  intro offset other found
  have shifted := placed (offset + 1) other (by simpa using found)
  rw [Nat.add_assoc, Nat.add_comm 1 offset]
  exact shifted

end

namespace Cursor

@[simp]
theorem follow_in_tree (tree : Tree) (address : List Nat) (index : Nat) :
    (inTree tree address).follow (.child index) = inTree tree (address ++ [index]) :=
  eq_of_place rfl (by simp [follow, inTree, stepsOf])

@[simp]
theorem descend_in_tree (tree : Tree) (address rest : List Nat) :
    (inTree tree address).descend rest = inTree tree (address ++ rest) := by
  apply eq_of_place
  · simp [inTree]
  · simp [inTree, stepsOf]

theorem in_tree_inj {tree : Tree} {address other : List Nat} (same : inTree tree address = inTree tree other) :
    address = other := by
  have paths : stepsOf address = stepsOf other := congrArg path same
  exact (List.map_inj_right fun _ _ steps => child_step_inj steps).mp paths

@[simp]
theorem up_in_tree (tree : Tree) (parent : List Nat) (index : Nat) :
    (inTree tree (parent ++ [index])).up = inTree tree parent :=
  eq_of_place rfl (by simp [up, inTree, stepsOf])

@[simp]
theorem last_step_in_tree (tree : Tree) (parent : List Nat) (index : Nat) :
    (inTree tree (parent ++ [index])).path.getLast? = some (.child index) := by
  simp [inTree, stepsOf]

@[simp]
theorem index_in_tree (tree : Tree) (parent : List Nat) (index : Nat) :
    (inTree tree (parent ++ [index])).index = .ok (some (index : Int)) := by
  simp [Cursor.index, Step.index]

section

variable (tree node : Tree) (address : List Nat) (inside : tree.subtreeAt address = some node)

include inside

@[simp]
theorem found_in_tree : (inTree tree address).found = .ok (.tree node) := by
  rw [(inTree tree address).found_eq]
  exact walk_steps_of tree node address inside

@[simp]
theorem kind_in_tree : (inTree tree address).kind = .ok node.kind := by
  simp [kind, inside, Item.kind]

@[simp]
theorem payload_in_tree : (inTree tree address).payload = .ok node.payload := by
  simp [payload, inside, Item.payload]

@[simp]
theorem child_count_in_tree : (inTree tree address).childCount = .ok node.children.length := by
  simp [childCount, inside, Item.children]

@[simp]
theorem children_in_tree :
    (inTree tree address).children =
      .ok ((List.range node.children.length).map fun index => inTree tree (address ++ [index])) := by
  simp [children, inside]

end

@[simp]
theorem prev_siblings_in_tree (tree node : Tree) (parent : List Nat) (index : Nat)
    (above : tree.subtreeAt parent = some node) :
    (inTree tree (parent ++ [index])).prevSiblings =
      .ok (((List.range node.children.length).take index).map fun other =>
        inTree tree (parent ++ [other])) := by
  rw [prevSiblings, last_step_in_tree, up_in_tree, children_in_tree tree node parent above, List.map_take]
  rfl

@[simp]
theorem next_siblings_in_tree (tree node : Tree) (parent : List Nat) (index : Nat)
    (above : tree.subtreeAt parent = some node) :
    (inTree tree (parent ++ [index])).nextSiblings =
      .ok (((List.range node.children.length).drop (index + 1)).map fun other =>
        inTree tree (parent ++ [other])) := by
  rw [nextSiblings, last_step_in_tree, up_in_tree, children_in_tree tree node parent above, List.map_drop]
  rfl

mutual

theorem below_eq (cursor : Cursor) (tree : Tree) :
    cursor.below tree = tree.addressesBelow.map cursor.descend := by
  cases tree with
  | carrier kind payload children => exact below_forest_eq cursor 0 children
  | group kind children => exact below_forest_eq cursor 0 children
  | leaf => rfl

theorem below_forest_eq (cursor : Cursor) (index : Nat) (trees : List Tree) :
    cursor.belowForest index trees = (Tree.forestAddresses index trees).map cursor.descend := by
  cases trees with
  | nil => rfl
  | cons tree trees =>
      rw [belowForest, below_eq (cursor.follow (.child index)) tree, below_forest_eq cursor (index + 1) trees]
      simp [Tree.forestAddresses, descend, Function.comp_def]

end

@[simp]
theorem descendants_in_tree (tree node : Tree) (address : List Nat)
    (inside : tree.subtreeAt address = some node) :
    (inTree tree address).descendants =
      .ok (node.addressesBelow.map fun rest => inTree tree (address ++ rest)) := by
  simp [descendants, inside, below_eq, funext (descend_in_tree tree address)]

end Cursor

end ScheduleShape
