import Mathlib.Data.List.Infix
import Mathlib.Order.Defs.Unbundled
import ScheduleShape.Affine.Boxes
import ScheduleShape.Cursor.Travel
import ScheduleShape.Proofs.Cursor.Travel

set_option autoImplicit false

namespace ScheduleShape

section

theorem is_prefix_stepwise {α : Type} [BEq α] [LawfulBEq α] (first second : List α) :
    first.isPrefixOf second
      = (decide (first.length ≤ second.length) && (second.zip first).all fun both => both.1 == both.2) := by
  induction first generalizing second with
  | nil => simp
  | cons step first ih =>
      cases second with
      | nil => simp
      | cons other second =>
          rw [List.isPrefixOf_cons_cons, ih, BEq.comm]
          simp [Bool.and_left_comm]

theorem inits_chained (address : List Nat) :
    address.inits.Pairwise fun above below => above <+: below ∧ above ≠ below := by
  induction address with
  | nil => exact List.pairwise_singleton _ _
  | cons index address ih =>
      rw [List.inits_cons, List.pairwise_cons, List.pairwise_map]
      refine ⟨?_, ih.imp ?_⟩
      · intro below among
        obtain ⟨rest, _, rfl⟩ := List.mem_map.mp among
        exact ⟨List.nil_prefix, (List.cons_ne_nil index rest).symm⟩
      · intro above below further
        exact ⟨(List.prefix_cons_inj index).mpr further.1, fun same => further.2 (List.cons.inj same).2⟩

variable [Affine]

namespace Cursor

theorem reached_iff (tree : Tree) (cursor : Cursor) : Reached tree cursor ↔ Within tree cursor := by
  constructor
  · intro reached
    obtain ⟨moves, travelled⟩ := reached
    exact travel_within tree (startTree tree) (within_at tree [] rfl) moves cursor travelled
  · intro within
    obtain ⟨address, node, inside, rfl⟩ := within
    exact ⟨_, travel_down tree [] address (by rw [List.nil_append, inside]; rfl)⟩

theorem depth_in_tree (tree : Tree) (address : List Nat) : (inTree tree address).depth = address.length :=
  List.length_map _

section

variable (tree : Tree) (above address : List Nat)

theorem is_ancestor_in_tree :
    (inTree tree above).isAncestorOf (inTree tree address) = true ↔ above <+: address := by
  rw [isAncestorOf, List.isPrefixOf_iff_prefix]
  exact List.prefix_map_iff_of_injective child_step_inj

theorem travel_from_parent (index : Nat) (moves : List Move) :
    (inTree tree (above ++ [index])).travel (.parent :: moves) = (inTree tree above).travel moves := by
  rw [travel, go, parent_in_tree]
  rfl

theorem parents_lead_up (rest : List Nat) :
    (inTree tree (above ++ rest)).travel (List.replicate rest.length .parent) = .ok (inTree tree above) := by
  induction rest using List.reverseRecOn with
  | nil =>
      rw [List.append_nil]
      rfl
  | append_singleton rest index ih =>
      rw [List.length_append, List.length_singleton, List.replicate_succ, ← List.append_assoc,
        travel_from_parent]
      exact ih

theorem above_of_parents (count : Nat) (other : Cursor)
    (risen : (inTree tree address).travel (List.replicate count .parent) = .ok other) :
    ∃ above, above <+: address ∧ other = inTree tree above := by
  induction count generalizing address with
  | zero =>
      cases risen
      exact ⟨address, List.prefix_rfl, rfl⟩
  | succ count ih =>
      rcases List.eq_nil_or_concat' address with rfl | ⟨parent, index, rfl⟩
      · cases risen
      · rw [List.replicate_succ, travel_from_parent] at risen
        obtain ⟨above, begins, same⟩ := ih parent risen
        exact ⟨above, begins.trans (List.prefix_append parent [index]), same⟩

end

section

variable (tree node : Tree) (above address : List Nat) (inside : tree.subtreeAt above = some node)
  (there : (tree.subtreeAt address).isSome)

include inside there

theorem prefix_iff_below :
    above <+: address ↔ inTree tree address = inTree tree above
      ∨ inTree tree address ∈ node.addressesBelow.map fun rest => inTree tree (above ++ rest) := by
  simp only [List.mem_map, mem_below tree node above _ inside]
  constructor
  · intro begins
    obtain ⟨rest, rfl⟩ := begins
    by_cases here : rest = []
    · rw [here, List.append_nil]
      exact .inl rfl
    · exact .inr ⟨rest, ⟨here, there⟩, rfl⟩
  · intro found
    rcases found with same | ⟨rest, _, same⟩
    · rw [in_tree_inj same]
    · rw [← in_tree_inj same]
      exact List.prefix_append above rest

theorem compares_in_tree : (inTree tree above).Compares (inTree tree address) where
  stepwise := is_prefix_stepwise (stepsOf above) (stepsOf address)
  downward := by
    refine ⟨_, descendants_in_tree tree node above inside, ?_⟩
    rw [is_ancestor_in_tree, prefix_iff_below tree node above address inside there]
  upward := by
    rw [is_ancestor_in_tree]
    constructor
    · intro begins
      obtain ⟨rest, rfl⟩ := begins
      exact ⟨rest.length, parents_lead_up tree above rest⟩
    · intro climbed
      obtain ⟨count, risen⟩ := climbed
      obtain ⟨other, begins, same⟩ := above_of_parents tree address count _ risen
      rw [in_tree_inj same]
      exact begins

end

theorem lineage_in_tree (tree : Tree) (address : List Nat) (inside : (tree.subtreeAt address).isSome) :
    Lineage tree (inTree tree address) (address.inits.map (inTree tree)) where
  among other := by
    simp only [List.mem_map, List.mem_inits, reached_iff]
    constructor
    · intro listed
      obtain ⟨above, ⟨rest, rfl⟩, rfl⟩ := listed
      exact ⟨within_at tree above (inside_above tree above rest inside),
        (is_ancestor_in_tree tree above _).mpr (List.prefix_append above rest)⟩
    · intro ancestral
      obtain ⟨⟨above, node, _, rfl⟩, ancestor⟩ := ancestral
      exact ⟨above, (is_ancestor_in_tree tree above address).mp ancestor, rfl⟩
  once := by
    rw [List.Nodup, List.pairwise_map]
    exact (inits_chained address).imp fun further same => further.2 (in_tree_inj same)
  chained := by
    rw [List.pairwise_map]
    exact (inits_chained address).imp fun further => (is_ancestor_in_tree tree _ _).mpr further.1
  counted := by rw [List.length_map, List.length_inits, depth_in_tree]

theorem ancestry_partial_order (tree : Tree) :
    IsPartialOrder { cursor // Reached tree cursor } (Ancestry tree) where
  refl cursor := List.isPrefixOf_iff_prefix.mpr List.prefix_rfl
  trans first second third begins further := by
    have along := (List.isPrefixOf_iff_prefix.mp begins).trans (List.isPrefixOf_iff_prefix.mp further)
    exact List.isPrefixOf_iff_prefix.mpr along
  antisymm first second begins back := by
    obtain ⟨first, reached⟩ := first
    obtain ⟨second, likewise⟩ := second
    obtain ⟨above, _, _, rfl⟩ := (reached_iff tree first).mp reached
    obtain ⟨address, _, _, rfl⟩ := (reached_iff tree second).mp likewise
    have down := (is_ancestor_in_tree tree above address).mp begins
    have up := (is_ancestor_in_tree tree address above).mp back
    cases down.eq_of_length_le up.length_le
    rfl

/-- Of two cursors of a tree, one is an ancestor of the other just when the other is the same or among its
descendants, and just when some number of moves to the parent leads from the other back to it. Ancestry is
a partial order on the cursors of the tree with the root as its least. The ancestors of a cursor form a chain,
and there is one more of them than the cursor is deep. -/
theorem ancestry_orders_tree (tree : Tree) :
    (∀ cursor other, Reached tree cursor → Reached tree other → cursor.Compares other)
    ∧ IsPartialOrder { cursor // Reached tree cursor } (Ancestry tree)
    ∧ Reached tree (startTree tree)
    ∧ (∀ cursor, Reached tree cursor → (startTree tree).isAncestorOf cursor = true)
    ∧ ∀ cursor, Reached tree cursor → ∃ ancestors, Lineage tree cursor ancestors := by
  refine ⟨?_, ancestry_partial_order tree, ⟨[], rfl⟩, ?_, ?_⟩
  · intro cursor other reached likewise
    obtain ⟨above, node, inside, rfl⟩ := (reached_iff tree cursor).mp reached
    obtain ⟨address, under, there, rfl⟩ := (reached_iff tree other).mp likewise
    exact compares_in_tree tree node above address inside (by rw [there]; rfl)
  · intro cursor _
    exact List.isPrefixOf_iff_prefix.mpr List.nil_prefix
  · intro cursor reached
    obtain ⟨address, node, inside, rfl⟩ := (reached_iff tree cursor).mp reached
    exact ⟨_, lineage_in_tree tree address (by rw [inside]; rfl)⟩

end Cursor

end

namespace Cursor

def filterAndLeaf : Tree :=
  .group .sequence [.carrier .filter (.value .null) [.leaf], .leaf]

theorem ancestry_orders_tree_filter_and_leaf :
    Reached filterAndLeaf (inTree filterAndLeaf [0]) ∧ Reached filterAndLeaf (inTree filterAndLeaf [0, 0])
      ∧ Reached filterAndLeaf (inTree filterAndLeaf [1])
      ∧ (∃ count, (inTree filterAndLeaf [0, 0]).travel (List.replicate count .parent)
        = .ok (inTree filterAndLeaf [0]))
      ∧ (¬ ∃ count, (inTree filterAndLeaf [1]).travel (List.replicate count .parent)
        = .ok (inTree filterAndLeaf [0]))
      ∧ ∃ ancestors, Lineage filterAndLeaf (inTree filterAndLeaf [0, 0]) ancestors ∧ ancestors.length = 3 := by
  have filter : Reached filterAndLeaf (inTree filterAndLeaf [0]) := ⟨[.child 0], rfl⟩
  have inner : Reached filterAndLeaf (inTree filterAndLeaf [0, 0]) := ⟨[.child 0, .child 0], rfl⟩
  have outer : Reached filterAndLeaf (inTree filterAndLeaf [1]) := ⟨[.child 0, .next 1], rfl⟩
  obtain ⟨compares, _, _, _, lineage⟩ := ancestry_orders_tree filterAndLeaf
  obtain ⟨ancestors, line⟩ := lineage _ inner
  refine ⟨filter, inner, outer, (compares _ _ filter inner).upward.mp rfl, ?_, ancestors, line, line.counted⟩
  intro risen
  cases (compares _ _ filter outer).upward.mpr risen

end Cursor

end ScheduleShape
