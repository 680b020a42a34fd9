import ScheduleShape.Tree.Basic

set_option autoImplicit false

namespace ScheduleShape.Tree

variable [Affine]

mutual

def addressesBelow : Tree → List (List Nat)
  | carrier _ _ children => forestAddresses 0 children
  | group _ children => forestAddresses 0 children
  | leaf => []

def forestAddresses (index : Nat) : List Tree → List (List Nat)
  | [] => []
  | tree :: trees =>
      ([] :: addressesBelow tree).map (index :: ·) ++ forestAddresses (index + 1) trees

end

theorem addresses_below_children (tree : Tree) : tree.addressesBelow = forestAddresses 0 tree.children := by
  cases tree <;> rfl

theorem forest_addresses_append (trees others : List Tree) (index : Nat) :
    forestAddresses index (trees ++ others)
      = forestAddresses index trees ++ forestAddresses (index + trees.length) others := by
  induction trees generalizing index with
  | nil => rfl
  | cons tree trees ih =>
      rw [List.cons_append, forestAddresses, ih, forestAddresses, List.append_assoc, List.length_cons,
        Nat.add_comm trees.length 1, Nat.add_assoc]

theorem addresses_block (tree : Tree) (index : Nat) (small : index < tree.children.length) :
    tree.addressesBelow = forestAddresses 0 (tree.children.take index)
      ++ ([] :: tree.children[index].addressesBelow).map (index :: ·)
      ++ forestAddresses (index + 1) (tree.children.drop (index + 1)) := by
  have before : (tree.children.take index).length = index := List.length_take_of_le (Nat.le_of_lt small)
  have around := forest_addresses_append (tree.children.take index) (tree.children.drop index) 0
  rw [List.take_append_drop, before, Nat.zero_add, List.drop_eq_getElem_cons small, forestAddresses] at around
  rw [addresses_below_children, around, List.append_assoc]

mutual

@[simp]
theorem length_addresses_below (tree : Tree) : tree.addressesBelow.length + 1 = tree.size := by
  cases tree with
  | carrier kind payload children =>
      rw [addressesBelow, length_forest_addresses children 0, size, Nat.add_comm]
  | group kind children =>
      rw [addressesBelow, length_forest_addresses children 0, size, Nat.add_comm]
  | leaf => rfl

theorem length_forest_addresses (trees : List Tree) (index : Nat) :
    (forestAddresses index trees).length = forestSize trees := by
  cases trees with
  | nil => rfl
  | cons tree trees =>
      rw [forestAddresses, List.length_append, List.length_map, List.length_cons, length_addresses_below tree,
        length_forest_addresses trees (index + 1), forestSize]

end

theorem nil_not_mem_forest_addresses (trees : List Tree) (start : Nat) :
    [] ∉ forestAddresses start trees := by
  induction trees generalizing start with
  | nil => simp [forestAddresses]
  | cons tree trees ih => simp [forestAddresses, ih]

mutual

theorem mem_addresses_below (tree : Tree) (address : List Nat) :
    address ∈ tree.addressesBelow ↔ address ≠ [] ∧ (tree.subtreeAt address).isSome := by
  cases address with
  | nil => cases tree <;> simp [addressesBelow, nil_not_mem_forest_addresses]
  | cons index rest =>
      cases tree with
      | carrier kind payload children =>
          simp [addressesBelow, mem_forest_addresses children, subtreeAt, Tree.children]
      | group kind children =>
          simp [addressesBelow, mem_forest_addresses children, subtreeAt, Tree.children]
      | leaf => simp [addressesBelow, subtreeAt, Tree.children]

theorem mem_forest_addresses (trees : List Tree) (start index : Nat) (rest : List Nat) :
    index :: rest ∈ forestAddresses start trees ↔
      ∃ offset, index = start + offset ∧ (trees[offset]?.bind (·.subtreeAt rest)).isSome := by
  cases trees with
  | nil => simp [forestAddresses]
  | cons tree trees =>
      have inside : rest ∈ [] :: tree.addressesBelow ↔ (tree.subtreeAt rest).isSome := by
        rw [List.mem_cons, mem_addresses_below tree rest]
        by_cases empty : rest = []
        · simp [empty, subtreeAt]
        · simp [empty]
      simp only [forestAddresses, List.mem_append, List.mem_map, List.cons.injEq,
        mem_forest_addresses trees]
      constructor
      · rintro (⟨address, member, rfl, rfl⟩ | ⟨offset, rfl, found⟩)
        · exact ⟨0, rfl, by simpa using inside.mp member⟩
        · exact ⟨offset + 1, by omega, by simpa using found⟩
      · rintro ⟨offset, rfl, found⟩
        cases offset with
        | zero => exact .inl ⟨rest, inside.mpr (by simpa using found), rfl, rfl⟩
        | succ offset => exact .inr ⟨offset, by omega, by simpa using found⟩

end

end ScheduleShape.Tree
