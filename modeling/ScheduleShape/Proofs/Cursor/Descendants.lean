import ScheduleShape.Affine.Boxes
import ScheduleShape.Cursor.Travel
import ScheduleShape.Proofs.Ascending
import ScheduleShape.Proofs.Cursor.Travel

set_option autoImplicit false

namespace ScheduleShape

section

theorem comes_before_cons (index : Nat) (first second : List Nat) (before : ComesBefore first second) :
    ComesBefore (index :: first) (index :: second) := by
  cases before with
  | above address next rest => exact .above (index :: first) next rest
  | aside common smaller rest other => exact .aside (index :: common) smaller rest other

theorem comes_before_of_lt (first second : List Nat) (less : first < second) : ComesBefore first second := by
  induction first generalizing second with
  | nil =>
      cases second with
      | nil => cases less
      | cons index rest => exact .above [] index rest
  | cons index first ih =>
      cases second with
      | nil => cases less
      | cons later second =>
          rcases List.cons_lt_cons_iff.mp less with smaller | ⟨rfl, further⟩
          · exact .aside [] smaller first second
          · exact comes_before_cons index first second (ih second further)

variable [Affine]

namespace Cursor

theorem blocks_in_tree (root : Tree) (address : List Nat) (trees : List Tree) (index : Nat)
    (placed : Placed root address index trees) :
    ∃ parts : List (List Cursor), ((List.range' index trees.length).map fun (child : Nat) =>
        inTree root (address ++ [child])).mapM (fun child => do
          let below ← child.descendants
          pure (child :: below)) = .ok parts
      ∧ parts.flatten = (Tree.forestAddresses index trees).map fun rest => inTree root (address ++ rest) := by
  induction trees generalizing index with
  | nil => exact ⟨[], rfl, rfl⟩
  | cons tree trees ih =>
      have here := placed_first root tree address index trees placed
      obtain ⟨parts, later, flat⟩ := ih (index + 1) (placed_rest root tree address index trees placed)
      refine ⟨([] :: tree.addressesBelow).map (fun rest => inTree root (address ++ [index] ++ rest)) :: parts,
        ?_, ?_⟩
      · rw [List.length_cons, List.range'_succ, List.map_cons, List.mapM_cons,
          descendants_in_tree root tree (address ++ [index]) here, later]
        simp
      · rw [List.flatten_cons, flat, Tree.forestAddresses, List.map_append]
        simp

section

variable (tree node : Tree) (address : List Nat) (inside : tree.subtreeAt address = some node)

include inside

theorem descendants_unfold : (inTree tree address).descendants = (do
    let parts ← (← (inTree tree address).children).mapM fun child => do
      let below ← child.descendants
      pure (child :: below)
    pure parts.flatten) := by
  have placed := children_placed tree node address inside
  obtain ⟨parts, listed, flat⟩ := blocks_in_tree tree address node.children 0 placed
  rw [descendants_in_tree tree node address inside, children_in_tree tree node address inside,
    List.range_eq_range', Tree.addresses_below_children, ← flat]
  change _ = Except.bind (List.mapM _ _) _
  rw [listed]
  rfl

theorem descendants_block (index : Nat) (small : index < node.children.length) :
    ∃ before below after, (inTree tree (address ++ [index])).descendants = .ok below
      ∧ (node.addressesBelow.map fun rest => inTree tree (address ++ rest))
        = before ++ inTree tree (address ++ [index]) :: below ++ after := by
  have there := child_at tree node _ address index inside (List.getElem?_eq_getElem small)
  refine ⟨?_, _, ?_, descendants_in_tree tree _ (address ++ [index]) there, ?_⟩
  · exact (Tree.forestAddresses 0 (node.children.take index)).map fun rest => inTree tree (address ++ rest)
  · exact (Tree.forestAddresses (index + 1) (node.children.drop (index + 1))).map fun rest =>
      inTree tree (address ++ rest)
  · rw [Tree.addresses_block node index small]
    simp

theorem enumerates_in_tree :
    ∃ found, (inTree tree address).Enumerates tree address node found := by
  have ascending : (node.addressesBelow.map (address ++ ·)).Pairwise (· < ·) := by
    have below := (List.pairwise_cons.mp (Tree.addresses_ascending node)).2
    exact List.pairwise_map.mpr (below.imp fun before => List.append_left_lt before)
  have listed : (node.addressesBelow.map fun rest => inTree tree (address ++ rest))
      = (node.addressesBelow.map (address ++ ·)).map (inTree tree) := by
    rw [List.map_map]
    rfl
  refine ⟨node.addressesBelow.map fun rest => inTree tree (address ++ rest), ?_⟩
  refine ⟨descendants_in_tree tree node address inside, ?_, ?_, ?_, ?_,
    descendants_unfold tree node address inside, ?_⟩
  · intro other
    simp only [List.mem_map, mem_below tree node address _ inside, and_assoc, eq_comm]
  · rw [listed, List.Nodup, List.pairwise_map]
    refine ascending.imp fun before same => ?_
    rw [in_tree_inj same] at before
    exact List.lt_irrefl _ before
  · exact ⟨_, ascending.imp (comes_before_of_lt _ _), listed⟩
  · rw [List.length_map]
    exact Tree.length_addresses_below node
  · intro index small
    have entered := (child_in_tree_iff tree node address inside index _).mpr ⟨index, rfl, small, rfl⟩
    obtain ⟨before, below, after, downward, split⟩ := descendants_block tree node address inside index small
    exact ⟨_, before, below, after, entered, downward, split⟩

end

/-- Wherever a travel through a tree ends, the descendants of the cursor are just the nodes whose addresses
go on from its own, each once and in preorder, as many as the subtree has nodes besides the first. They are
listed child by child, and what is below a child comes in one piece after it. -/
theorem descendants_in_preorder (tree : Tree) (moves : List Move) (cursor : Cursor)
    (travelled : (startTree tree).travel moves = .ok cursor) :
    ∃ address node found, tree.subtreeAt address = some node ∧ cursor = inTree tree address
      ∧ cursor.found = .ok (.tree node) ∧ cursor.Enumerates tree address node found := by
  have begun : Within tree (startTree tree) := within_at tree [] rfl
  obtain ⟨address, node, inside, rfl⟩ := travel_within tree (startTree tree) begun moves cursor travelled
  obtain ⟨found, enumerated⟩ := enumerates_in_tree tree node address inside
  exact ⟨address, node, found, inside, rfl, found_in_tree tree node address inside, enumerated⟩

end Cursor

end

namespace Cursor

def filterBesideLeaf : Tree :=
  .carrier .mark (.value .null) [.carrier .filter (.value .null) [.leaf, .group .sequence []], .leaf]

theorem descendants_in_preorder_filter_beside_leaf :
    (startTree filterBesideLeaf).travel [.child 1, .prev 1, .parent] = .ok (inTree filterBesideLeaf [])
      ∧ ∃ found, (inTree filterBesideLeaf []).Enumerates filterBesideLeaf [] filterBesideLeaf found
        ∧ found = [[0], [0, 0], [0, 1], [1]].map (inTree filterBesideLeaf) := by
  have travelled : (startTree filterBesideLeaf).travel [.child 1, .prev 1, .parent]
    = .ok (inTree filterBesideLeaf []) := rfl
  obtain ⟨address, node, found, inside, same, rests, enumerated⟩ :=
    descendants_in_preorder filterBesideLeaf [.child 1, .prev 1, .parent] _ travelled
  cases in_tree_inj same
  cases inside
  refine ⟨travelled, found, enumerated, ?_⟩
  have listed := enumerated.listed
  cases (descendants_in_tree filterBesideLeaf filterBesideLeaf [] rfl).symm.trans listed
  rfl

end Cursor

end ScheduleShape
