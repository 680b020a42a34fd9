import ScheduleShape.Pattern.Kin
import ScheduleShape.Proofs.Ascending
import ScheduleShape.Proofs.Pattern.Answers
import ScheduleShape.Proofs.Pattern.Found
import ScheduleShape.Proofs.Pattern.Inherited

set_option autoImplicit false

namespace ScheduleShape

def Siblings.indices : Siblings → Nat → Nat → List Nat
  | before, index, count => (List.range count).take index
  | after, index, count => (List.range count).drop (index + 1)
  | either, index, count => (List.range count).take index ++ (List.range count).drop (index + 1)

theorem mem_indices (siblings : Siblings) (index count place : Nat) (within : index < count) :
    place ∈ siblings.indices index count ↔ siblings.Has index place ∧ place < count := by
  have before := mem_take_range index count place within
  have after := mem_drop_range index count place
  cases siblings with
  | before =>
      rw [Siblings.indices, before, Siblings.Has]
      omega
  | after => rw [Siblings.indices, after, Siblings.Has]
  | either =>
      rw [Siblings.indices, List.mem_append, before, after, Siblings.Has]
      omega

theorem indices_ascending (siblings : Siblings) (index count : Nat) :
    (siblings.indices index count).Pairwise (· < ·) := by
  have ascending : (List.range count).Pairwise (· < ·) := List.pairwise_lt_range
  cases siblings with
  | before => exact ascending.sublist (List.take_sublist _ _)
  | after => exact ascending.sublist (List.drop_sublist _ _)
  | either =>
      rw [Siblings.indices, ← List.eraseIdx_eq_take_drop_succ]
      exact ascending.sublist (List.eraseIdx_sublist _ _)

section

variable [Affine]

theorem same_slots_ok {run : Run Bool} (alike : Parallel SameSlots Eq run run) (memory other after : Memory)
    (answer : Bool) (same : memory.slots = other.slots) (ended : run memory = .ok answer after) :
    ∃ also, run other = .ok answer also ∧ after.slots = also.slots := by
  have ends := alike memory other same
  rw [ended] at ends
  generalize reached : run other = result at ends
  cases ends with
  | ok answers kept => exact ⟨_, by rw [answers], kept⟩

theorem match_same_slots (pattern : Pattern) (cursor : Cursor) :
    Parallel SameSlots Eq (pattern.matchAt cursor) (pattern.matchAt cursor) :=
  settle_inherits same_slots_law _ (align_inherits same_slots_law pattern cursor [] fun _ _ => trivial)

theorem failed_match_keeps (pattern : Pattern) (cursor : Cursor) (memory after : Memory)
    (uncaptured : pattern.guardSlots = []) (failed : pattern.matchAt cursor memory = .ok false after) :
    after.slots = memory.slots := by
  funext slot
  exact settle_restores _ (align_framed slot pattern cursor [] (by simp [uncaptured])) memory after failed

theorem first_passes_append (passes : Cursor → Run Bool) (cursors others : List Cursor) :
    firstPasses passes (cursors ++ others)
      = (do if ← firstPasses passes cursors then pure true else firstPasses passes others) := by
  induction cursors with
  | nil => simp [firstPasses]
  | cons cursor cursors ih =>
      simp only [List.cons_append, firstPasses, ih, bind_assoc]
      congr 1
      funext answer
      cases answer <;> simp

section

variable {tree : Tree} (pattern : Pattern) (answers : pattern.GuardsAnswer tree False)
  (uncaptured : pattern.guardSlots = [])

include answers

theorem follows_after (address : List Nat) (addresses : List (List Nat)) (memory between : Memory)
    (failed : pattern.isMatching (.cursor (.inTree tree address)) memory = .ok false between)
    (kept : between.slots = memory.slots) (result : EStateM.Result Fault Memory Bool)
    (follows : pattern.FollowsFirst tree addresses between result) :
    pattern.FollowsFirst tree (address :: addresses) memory result := by
  have earlier : ∀ other answer after, pattern.isMatching (.cursor (.inTree tree other)) between = .ok answer after →
      ∃ alone, pattern.isMatching (.cursor (.inTree tree other)) memory = .ok answer alone
        ∧ after.slots = alone.slots := by
    intro other answer after ended
    rw [is_matching_at pattern _ answers] at ended ⊢
    exact same_slots_ok (match_same_slots pattern _) between memory after answer kept ended
  have vainly : ∀ others : List (List Nat),
      (∀ other ∈ others, ∃ alone, pattern.isMatching (.cursor (.inTree tree other)) between = .ok false alone) →
      ∀ other ∈ address :: others, ∃ alone,
        pattern.isMatching (.cursor (.inTree tree other)) memory = .ok false alone := by
    intro others vain other among
    rcases List.mem_cons.mp among with rfl | among
    · exact ⟨between, failed⟩
    · obtain ⟨late, ended⟩ := vain other among
      obtain ⟨alone, again, _⟩ := earlier other false late ended
      exact ⟨alone, again⟩
  cases follows with
  | matched before later witness split tried unchanged ended vain first same =>
      obtain ⟨alone, again, slots⟩ := earlier witness true _ first
      exact .matched (address :: before) later witness (congrArg (address :: ·) split) (.cons failed tried)
        (unchanged.trans kept) ended (vainly before vain) again (same.trans slots)
  | unmatched tried unchanged vain =>
      exact .unmatched (.cons failed tried) (unchanged.trans kept) (vainly addresses vain)

include uncaptured

theorem first_passes_follows (addresses : List (List Nat))
    (proper : ∀ address ∈ addresses, (tree.subtreeAt address).isSome ∧ address ≠ []) (memory : Memory) :
    pattern.FollowsFirst tree addresses memory
      (firstPasses pattern.matchAt (addresses.map (Cursor.inTree tree)) memory) := by
  induction addresses generalizing memory with
  | nil => exact .unmatched .nil rfl (by simp)
  | cons address addresses ih =>
      obtain ⟨inside, below⟩ := proper address List.mem_cons_self
      obtain ⟨answer, between, ended⟩ := match_answers pattern address answers inside below memory
      have tried : pattern.isMatching (.cursor (.inTree tree address)) memory = .ok answer between := by
        rw [is_matching_at pattern _ answers, ended]
      rw [List.map_cons, firstPasses, bind_of_ok _ _ memory between answer ended]
      cases answer with
      | true => exact .matched [] addresses address rfl .nil rfl tried (by simp) tried rfl
      | false =>
          have kept := failed_match_keeps pattern _ memory between uncaptured ended
          exact follows_after pattern answers address addresses memory between tried kept _
            (ih (fun other among => proper other (List.mem_cons_of_mem address among)) between)

end

theorem siblings_tried (siblings : Siblings) (pattern : Pattern) (tree node : Tree) (parent : List Nat) (index : Nat)
    (above : tree.subtreeAt parent = some node) :
    ((Kin.beside siblings).guard pattern).holds (.inTree tree (parent ++ [index]))
      = firstPasses pattern.matchAt ((siblings.indices index node.children.length).map fun other =>
        .inTree tree (parent ++ [other])) := by
  have earlier := Cursor.prev_siblings_in_tree tree node parent index above
  have later := Cursor.next_siblings_in_tree tree node parent index above
  cases siblings with
  | before =>
      rw [Kin.guard, Guard.holds, earlier]
      rfl
  | after =>
      rw [Kin.guard, Guard.holds, later]
      rfl
  | either =>
      rw [Kin.guard, Guard.holds, earlier, later, Siblings.indices, List.map_append, first_passes_append]
      rfl

theorem mem_siblings (siblings : Siblings) (tree node : Tree) (parent other : List Nat) (index : Nat)
    (above : tree.subtreeAt parent = some node) (within : index < node.children.length) :
    other ∈ (siblings.indices index node.children.length).map (fun place => parent ++ [place])
      ↔ (Kin.beside siblings).Relates tree (parent ++ [index]) other := by
  have here := @exists_last_iff (fun parent index place => other = parent ++ [place] ∧ siblings.Has index place)
    parent index
  simp only [Kin.Relates, here, List.mem_map]
  constructor
  · rintro ⟨place, among, rfl⟩
    obtain ⟨has, inside⟩ := (mem_indices siblings index _ place within).mp among
    exact ⟨(subtree_at_child tree node parent place above).mpr inside, place, rfl, has⟩
  · rintro ⟨inside, place, rfl, has⟩
    have below := (subtree_at_child tree node parent place above).mp inside
    exact ⟨place, (mem_indices siblings index _ place within).mpr ⟨has, below⟩, rfl⟩

theorem mem_descendants (tree node : Tree) (address other : List Nat) (here : tree.subtreeAt address = some node) :
    other ∈ node.addressesBelow.map (address ++ ·) ↔ Kin.below.Relates tree address other := by
  simp only [Kin.Relates, List.mem_map, mem_below tree node address _ here]
  constructor
  · rintro ⟨rest, ⟨proper, inside⟩, rfl⟩
    exact ⟨inside, rest, proper, rfl⟩
  · rintro ⟨inside, rest, proper, rfl⟩
    exact ⟨rest, ⟨proper, inside⟩, rfl⟩

theorem descendants_tried (pattern : Pattern) (tree node : Tree) (address : List Nat)
    (here : tree.subtreeAt address = some node) :
    (Guard.descendant pattern).holds (.inTree tree address)
      = firstPasses pattern.matchAt (node.addressesBelow.map fun rest => .inTree tree (address ++ rest)) := by
  rw [Guard.holds, Cursor.descendants_in_tree tree node address here]
  rfl

theorem kin_tried (kin : Kin) (tree : Tree) (address : List Nat) (inside : (tree.subtreeAt address).isSome) :
    ∃ others : List (List Nat), others.Pairwise (· < ·) ∧ (∀ other, other ∈ others ↔ kin.Relates tree address other)
      ∧ ∀ pattern, (kin.guard pattern).holds (.inTree tree address)
        = firstPasses pattern.matchAt (others.map (Cursor.inTree tree)) := by
  cases kin with
  | beside siblings =>
      rcases List.eq_nil_or_concat address with rfl | ⟨parent, index, rfl⟩
      · refine ⟨[], List.Pairwise.nil, by simp [Kin.Relates], fun pattern => ?_⟩
        cases siblings <;> rfl
      · rw [List.concat_eq_append] at inside ⊢
        obtain ⟨node, above, within⟩ := parent_of_child tree parent index inside
        refine ⟨(siblings.indices index node.children.length).map fun place => parent ++ [place], ?_, ?_, ?_⟩
        · refine List.pairwise_map.mpr ((indices_ascending siblings index _).imp fun before => ?_)
          exact List.append_left_lt (List.cons_lt_cons_iff.mpr (.inl before))
        · exact fun other => mem_siblings siblings tree node parent other index above within
        · intro pattern
          rw [siblings_tried siblings pattern tree node parent index above, List.map_map]
          rfl
  | below =>
      obtain ⟨node, here⟩ := Option.isSome_iff_exists.mp inside
      refine ⟨node.addressesBelow.map (address ++ ·), ?_, ?_, ?_⟩
      · refine List.pairwise_map.mpr ((List.pairwise_cons.mp (Tree.addresses_ascending node)).2.imp fun before => ?_)
        exact List.append_left_lt before
      · exact fun other => mem_descendants tree node address other here
      · intro pattern
        rw [Kin.guard, descendants_tried pattern tree node address here, List.map_map]
        rfl

theorem relative_proper (kin : Kin) (tree : Tree) (address other : List Nat)
    (related : kin.Relates tree address other) : (tree.subtreeAt other).isSome ∧ other ≠ [] := by
  refine ⟨related.1, ?_⟩
  cases kin with
  | beside siblings =>
      obtain ⟨parent, index, place, _, rfl, _⟩ := related.2
      simp
  | below =>
      obtain ⟨rest, proper, rfl⟩ := related.2
      simp [proper]

theorem matches_among_first (pattern : Pattern) (cursors found : List Cursor) (memory after : Memory)
    (ended : pattern.matchesAmong cursors memory = .ok found after) :
    (∃ final, firstPasses pattern.matchAt cursors memory = .ok true final) ↔ found ≠ [] := by
  induction cursors generalizing memory found with
  | nil =>
      cases ended
      simp [firstPasses, pure, EStateM.pure]
  | cons cursor cursors ih =>
      obtain ⟨matched, between, rest, began, searched, rfl⟩ :=
        matches_among_cons pattern cursor cursors found memory after ended
      rw [firstPasses, bind_of_ok _ _ memory between matched began]
      cases matched with
      | true => exact ⟨(fun _ => List.cons_ne_nil _ _), fun _ => ⟨between, rfl⟩⟩
      | false => exact ih rest between searched

theorem descendants_found (pattern : Pattern) (tree node : Tree) (address : List Nat) (memory between : Memory)
    (answer : Bool) (here : tree.subtreeAt address = some node) (answers : pattern.GuardsAnswer tree False)
    (tried : pattern.matchAt (.inTree tree address) memory = .ok answer between) :
    ∃ found after, pattern.findAll (.cursor (.inTree tree address)) memory = .ok found after
      ∧ (pattern.HasBelow tree address between ↔ ∃ cursor ∈ found, cursor ≠ .inTree tree address) := by
  have below : ∀ cursor ∈ node.addressesBelow.map fun rest => Cursor.inTree tree (address ++ rest),
      cursor ≠ .inTree tree address ∧ Answers (pattern.matchAt cursor) := by
    intro cursor among
    obtain ⟨rest, within, rfl⟩ := List.mem_map.mp among
    obtain ⟨proper, inside⟩ := (mem_below tree node address rest here).mp within
    refine ⟨fun same => proper ?_, match_answers pattern (address ++ rest) answers inside (by simp [proper])⟩
    exact List.append_right_eq_self.mp (Cursor.in_tree_inj same)
  obtain ⟨rest, after, searched⟩ := matches_among_answers pattern _ (fun cursor among => (below cursor among).2) between
  have listed := matches_among_sublist pattern _ rest between after searched
  have first := matches_among_first pattern _ rest between after searched
  rw [Pattern.HasBelow, descendants_tried pattern tree node address here, first]
  refine ⟨if answer then .inTree tree address :: rest else rest, after, ?_, ?_⟩
  · rw [find_all_in_tree pattern tree node address here, List.map_cons, List.append_nil, Pattern.matchesAmong,
      bind_of_ok _ _ memory between answer tried, bind_of_ok _ _ between after rest searched]
    rfl
  · have besides : ∀ cursor, cursor ∈ (if answer then .inTree tree address :: rest else rest) ↔
        cursor ∈ rest ∨ answer = true ∧ cursor = .inTree tree address := by
      intro cursor
      cases answer <;> simp [or_comm]
    constructor
    · intro some
      obtain ⟨cursor, among⟩ := List.exists_mem_of_ne_nil rest some
      exact ⟨cursor, (besides cursor).mpr (.inl among), (below cursor (listed.subset among)).1⟩
    · rintro ⟨cursor, among, different⟩
      rcases (besides cursor).mp among with among | ⟨_, same⟩
      · exact List.ne_nil_of_mem among
      · exact absurd same different

section

variable {pattern : Pattern} {tree : Tree} {address : List Nat} {memory other : Memory}

theorem has_below_same_slots (same : memory.slots = other.slots) (held : pattern.HasBelow tree address memory) :
    pattern.HasBelow tree address other := by
  have alike := holds_inherits same_slots_law (.descendant pattern) (.inTree tree address) fun _ _ => trivial
  obtain ⟨final, ended⟩ := held
  obtain ⟨also, reached, _⟩ := same_slots_ok alike memory other final true same ended
  exact ⟨also, reached⟩

theorem has_below_from_node (fromNode : pattern.FromNode) (held : pattern.HasBelow tree address memory) :
    pattern.HasBelow tree address other := by
  have shown := holds_shows (.descendant pattern) (.inTree tree address) fromNode
  obtain ⟨final, ended⟩ := held
  rw [shows_of_ok id _ _ shown memory final true ended] at shown
  obtain ⟨answer, after, reached, rfl⟩ := shows_ok id _ _ shown other
  exact ⟨after, reached⟩

end

/-- The guards that look for a match among the siblings or the descendants of a node try these in the order
of their addresses and follow the first match, as if it had been tried alone; without a match the slots
stay as they are. A search tries the node itself first. It finds another node below just when the guard for
descendants holds after that, which is as it was before if the node does not match or the guards of the
pattern look at nodes alone. -/
theorem guards_follow_first_match (pattern : Pattern) (tree : Tree) (address : List Nat) (memory : Memory)
    (inside : (tree.subtreeAt address).isSome) (answers : pattern.GuardsAnswer tree False)
    (uncaptured : pattern.guardSlots = []) :
    pattern.LooksAmongKin tree address memory
      ∧ (pattern.GuardsAnswer tree (address = []) →
        ∃ answer between, pattern.isMatching (.cursor (.inTree tree address)) memory = .ok answer between)
      ∧ ∀ answer between, pattern.isMatching (.cursor (.inTree tree address)) memory = .ok answer between →
        ∃ found after, pattern.findAll (.cursor (.inTree tree address)) memory = .ok found after
          ∧ (pattern.HasBelow tree address between ↔ ∃ cursor ∈ found, cursor ≠ .inTree tree address)
          ∧ (answer = false ∨ pattern.FromNode →
            (pattern.HasBelow tree address memory ↔ ∃ cursor ∈ found, cursor ≠ .inTree tree address)) := by
  refine ⟨⟨?_, ?_, ?_⟩, ?_, ?_⟩
  · intro kin
    obtain ⟨others, ascending, related, tried⟩ := kin_tried kin tree address inside
    refine ⟨others, ascending, related, ?_⟩
    rw [tried pattern]
    apply first_passes_follows pattern answers uncaptured
    exact fun other among => relative_proper kin tree address other ((related other).mp among)
  · rw [Guard.holds, Guard.holds, Guard.holds, bind_assoc]
  · rintro siblings rfl
    cases siblings <;> rfl
  · intro rooted
    obtain ⟨answer, between, tried⟩ := match_answers pattern address rooted inside id memory
    rw [is_matching_at pattern _ answers]
    exact ⟨answer, between, tried⟩
  · intro answer between tried
    rw [is_matching_at pattern _ answers] at tried
    obtain ⟨node, here⟩ := Option.isSome_iff_exists.mp inside
    obtain ⟨found, after, searched, below⟩ :=
      descendants_found pattern tree node address memory between answer here answers tried
    refine ⟨found, after, searched, below, ?_⟩
    rw [← below]
    rintro (rfl | fromNode)
    · have kept := failed_match_keeps pattern _ memory between uncaptured tried
      exact ⟨has_below_same_slots kept.symm, has_below_same_slots kept⟩
    · exact ⟨has_below_from_node fromNode, has_below_from_node fromNode⟩

end

def domainOfLeaf : Tree := .carrier .domain (.value .null) [.leaf]

def untilBound : Pattern := .node .any [] (some (.test fun _ slots => .ok (slots "s").isNone)) (some "s")

def firstChild : Pattern := .node .any [] (some (.indexIs (.int 0))) none

-- The match at the node itself can bind a slot that the guard asks for, and it can fail at the root.
theorem search_tries_node_before_kin :
    (untilBound.GuardsAnswer domainOfLeaf True ∧ untilBound.guardSlots = []
        ∧ untilBound.HasBelow domainOfLeaf [] .empty
        ∧ ∃ found after, untilBound.findAll (.cursor (.inTree domainOfLeaf [])) .empty = .ok found after
          ∧ ¬ ∃ cursor ∈ found, cursor ≠ .inTree domainOfLeaf [])
      ∧ firstChild.GuardsAnswer domainOfLeaf False ∧ firstChild.guardSlots = []
        ∧ firstChild.HasBelow domainOfLeaf [] .empty
        ∧ ∃ after, firstChild.findAll (.cursor (.inTree domainOfLeaf [])) .empty = .error .rootHasNoIndex after := by
  have unbound : untilBound.GuardsAnswer domainOfLeaf True := by
    refine ⟨trivial, ?_⟩
    rintro guard same address inside rooted memory
    cases same
    exact ⟨_, memory, rfl⟩
  have indexed : firstChild.GuardsAnswer domainOfLeaf False :=
    guards_answer firstChild ⟨trivial, fun _ _ _ => rfl⟩
      ⟨trivial, index_is_answers domainOfLeaf False (.int 0) id⟩
  exact ⟨⟨unbound, rfl, ⟨_, rfl⟩, [.inTree domainOfLeaf []], _, rfl, by simp⟩,
    indexed, rfl, ⟨_, rfl⟩, _, rfl⟩

def filterAt (index : Int) : Pattern :=
  .node (.exactly (.carrier .filter)) [.node .any [] none (some "inner")] (some (.indexIs (.int index))) (some "last")

theorem filter_at_answers (index : Int) (tree : Tree) : (filterAt index).GuardsAnswer tree False :=
  guards_answer (filterAt index) ⟨⟨⟨trivial, trivial⟩, trivial⟩, fun _ _ _ => rfl⟩
    ⟨⟨⟨trivial, trivial⟩, trivial⟩, index_is_answers tree False (.int index) id⟩

theorem guards_follow_first_match_second_filter :
    (filtersAndMark.subtreeAt [0, 2]).isSome ∧ (filterAt 1).GuardsAnswer filtersAndMark False
      ∧ (filterAt 1).guardSlots = [] ∧ (filterAt 1).LooksAmongKin filtersAndMark [0, 2] .empty
      ∧ (∃ found after, (filterAt 1).findAll (.cursor (.inTree filtersAndMark [0, 2])) .empty = .ok found after
        ∧ ((filterAt 1).HasBelow filtersAndMark [0, 2] .empty ↔
          ∃ cursor ∈ found, cursor ≠ .inTree filtersAndMark [0, 2]))
      ∧ ∃ after, (Guard.sibling (filterAt 1)).holds (.inTree filtersAndMark [0, 2]) .empty = .ok true after
        ∧ after.slots "last" = some (.inTree filtersAndMark [0, 1]) := by
  obtain ⟨looks, _, searches⟩ := guards_follow_first_match (filterAt 1) filtersAndMark [0, 2] .empty rfl
    (filter_at_answers 1 filtersAndMark) rfl
  obtain ⟨found, after, searched, _, below⟩ := searches false _ rfl
  exact ⟨rfl, filter_at_answers 1 filtersAndMark, rfl, looks, ⟨found, after, searched, below (.inl rfl)⟩, _, rfl, rfl⟩

end ScheduleShape
