import ScheduleShape.Pattern.Position
import ScheduleShape.Tree.Address

set_option autoImplicit false

namespace ScheduleShape

def From (index : Nat) (addresses : List (List Nat)) : Prop :=
  ∀ address ∈ addresses, ∃ later rest, address = later :: rest ∧ index ≤ later

theorem from_join (index : Nat) (first others : List (List Nat)) (past : From (index + 1) others) :
    From index (first.map (index :: ·) ++ others) := by
  intro address among
  rcases List.mem_append.mp among with here | after
  · obtain ⟨rest, _, rfl⟩ := List.mem_map.mp here
    exact ⟨index, rest, rfl, Nat.le_refl index⟩
  · obtain ⟨later, rest, rfl, above⟩ := past address after
    exact ⟨later, rest, rfl, by omega⟩

theorem ascending_below (index : Nat) (addresses : List (List Nat))
    (ascending : addresses.Pairwise (· < ·)) : (addresses.map (index :: ·)).Pairwise (· < ·) := by
  rw [List.pairwise_map]
  exact ascending.imp fun before => List.cons_lt_cons_iff.mpr (.inr ⟨rfl, before⟩)

theorem ascending_join (index : Nat) (first others : List (List Nat))
    (ascending : first.Pairwise (· < ·)) (further : others.Pairwise (· < ·))
    (past : From (index + 1) others) : (first.map (index :: ·) ++ others).Pairwise (· < ·) := by
  rw [List.pairwise_append]
  refine ⟨ascending_below index first ascending, further, ?_⟩
  intro address here other after
  obtain ⟨rest, _, rfl⟩ := List.mem_map.mp here
  obtain ⟨later, rest, rfl, above⟩ := past other after
  exact List.cons_lt_cons_iff.mpr (.inl above)

theorem ascending_under_top (addresses : List (List Nat)) (index : Nat)
    (ascending : addresses.Pairwise (· < ·)) (past : From index addresses) :
    ([] :: addresses).Pairwise (· < ·) := by
  refine List.pairwise_cons.mpr ⟨?_, ascending⟩
  intro address among
  obtain ⟨later, rest, rfl, _⟩ := past address among
  exact List.nil_lt_cons later rest

variable [Affine]

namespace Tree

theorem forest_addresses_from (trees : List Tree) (index : Nat) : From index (forestAddresses index trees) := by
  induction trees generalizing index with
  | nil => exact fun _ among => nomatch among
  | cons tree trees ih => exact from_join index _ _ (ih (index + 1))

mutual

theorem addresses_ascending (tree : Tree) : ([] :: tree.addressesBelow).Pairwise (· < ·) := by
  cases tree with
  | carrier kind payload children =>
      exact ascending_under_top _ 0 (forest_addresses_ascending children 0) (forest_addresses_from children 0)
  | group kind children =>
      exact ascending_under_top _ 0 (forest_addresses_ascending children 0) (forest_addresses_from children 0)
  | leaf => exact List.pairwise_singleton _ _

theorem forest_addresses_ascending (trees : List Tree) (index : Nat) :
    (forestAddresses index trees).Pairwise (· < ·) := by
  cases trees with
  | nil => exact List.Pairwise.nil
  | cons tree trees =>
      exact ascending_join index _ _ (addresses_ascending tree) (forest_addresses_ascending trees (index + 1))
        (forest_addresses_from trees (index + 1))

end

end Tree

namespace Pattern

theorem forest_preorder_cons (pattern : Pattern) (patterns : List Pattern) (index : Nat) :
    (forestPreorder index (pattern :: patterns)).map Prod.fst
      = (pattern.preorder.map Prod.fst).map (index :: ·)
        ++ (forestPreorder (index + 1) patterns).map Prod.fst := by
  simp [forestPreorder]

theorem forest_preorder_from (patterns : List Pattern) (index : Nat) :
    From index ((forestPreorder index patterns).map Prod.fst) := by
  induction patterns generalizing index with
  | nil => exact fun _ among => nomatch among
  | cons pattern patterns ih =>
      rw [forest_preorder_cons]
      exact from_join index _ _ (ih (index + 1))

mutual

theorem preorder_ascending (pattern : Pattern) : (pattern.preorder.map Prod.fst).Pairwise (· < ·) := by
  cases pattern with
  | value held => exact List.pairwise_singleton _ _
  | node test children guard slot =>
      exact ascending_under_top _ 0 (forest_preorder_ascending children 0) (forest_preorder_from children 0)

theorem forest_preorder_ascending (patterns : List Pattern) (index : Nat) :
    ((forestPreorder index patterns).map Prod.fst).Pairwise (· < ·) := by
  cases patterns with
  | nil => exact List.Pairwise.nil
  | cons pattern patterns =>
      rw [forest_preorder_cons]
      exact ascending_join index _ _ (preorder_ascending pattern)
        (forest_preorder_ascending patterns (index + 1)) (forest_preorder_from patterns (index + 1))

end

theorem guarded_ascending (pattern : Pattern) : pattern.guarded.Pairwise (· < ·) :=
  (preorder_ascending pattern).sublist (List.filter_sublist.map Prod.fst)

end Pattern

end ScheduleShape
