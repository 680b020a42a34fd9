import ScheduleShape.Pattern.Guarded
import ScheduleShape.Proofs.Ascending
import ScheduleShape.Proofs.Pattern.Answers
import ScheduleShape.Proofs.Pattern.Captures

set_option autoImplicit false

namespace ScheduleShape

section

variable [Affine]

theorem matches_among_append (pattern : Pattern) (cursors others : List Cursor) :
    pattern.matchesAmong (cursors ++ others)
      = (do
          let first ← pattern.matchesAmong cursors
          let second ← pattern.matchesAmong others
          pure (first ++ second)) := by
  induction cursors with
  | nil => simp [Pattern.matchesAmong]
  | cons cursor cursors ih =>
      simp only [List.cons_append, Pattern.matchesAmong, ih, bind_assoc, pure_bind]
      congr 1
      funext matched
      cases matched <;> simp

theorem matches_among_cons (pattern : Pattern) (cursor : Cursor) (cursors found : List Cursor) (memory after : Memory)
    (ended : pattern.matchesAmong (cursor :: cursors) memory = .ok found after) :
    ∃ matched between rest, pattern.matchAt cursor memory = .ok matched between
      ∧ pattern.matchesAmong cursors between = .ok rest after
      ∧ found = if matched then cursor :: rest else rest := by
  obtain ⟨matched, between, began, goesOn⟩ := bind_ok _ _ memory after found ended
  obtain ⟨rest, finished, searched, same⟩ := bind_ok _ _ between after found goesOn
  cases same
  exact ⟨matched, between, rest, began, searched, rfl⟩

theorem matches_among_sublist (pattern : Pattern) (cursors found : List Cursor) (memory after : Memory)
    (ended : pattern.matchesAmong cursors memory = .ok found after) : found.Sublist cursors := by
  induction cursors generalizing memory found with
  | nil =>
      cases ended
      exact List.Sublist.refl []
  | cons cursor cursors ih =>
      obtain ⟨matched, between, rest, began, searched, rfl⟩ :=
        matches_among_cons pattern cursor cursors found memory after ended
      cases matched with
      | true => exact (ih rest between searched).cons_cons cursor
      | false => exact (ih rest between searched).cons cursor

theorem matches_among_answers (pattern : Pattern) (cursors : List Cursor)
    (answers : ∀ cursor ∈ cursors, Answers (pattern.matchAt cursor)) : Answers (pattern.matchesAmong cursors) := by
  induction cursors with
  | nil => exact answers_pure []
  | cons cursor cursors ih =>
      apply answers_bind _ _ (answers cursor List.mem_cons_self)
      intro matched
      apply answers_bind _ _ (ih fun other among => answers other (List.mem_cons_of_mem cursor among))
      exact fun found => answers_pure _

theorem find_all_in_tree (pattern : Pattern) (tree node : Tree) (address : List Nat)
    (inside : tree.subtreeAt address = some node) :
    pattern.findAll (.cursor (.inTree tree address))
      = pattern.matchesAmong (([] :: node.addressesBelow).map fun rest => .inTree tree (address ++ rest)) := by
  change (do
    let below ← (Cursor.inTree tree address).descendants
    pattern.matchesAmong (.inTree tree address :: below) : Run (List Cursor)) = _
  rw [Cursor.descendants_in_tree tree node address inside, List.map_cons, List.append_nil]
  rfl

def Pattern.accepts (pattern : Pattern) (cursor : Cursor) : Bool :=
  match pattern.verdict cursor with
  | .ok answer => answer
  | .error _ => false

theorem matches_among_accepts (pattern : Pattern) (fromNode : pattern.FromNode) (cursors : List Cursor)
    (answers : ∀ cursor ∈ cursors, ∃ answer, pattern.verdict cursor = .ok answer) (memory : Memory) :
    ∃ after, pattern.matchesAmong cursors memory = .ok (cursors.filter pattern.accepts) after := by
  induction cursors generalizing memory with
  | nil => exact ⟨memory, rfl⟩
  | cons cursor cursors ih =>
      obtain ⟨answer, reached⟩ := answers cursor List.mem_cons_self
      have shown := match_at_shows pattern cursor fromNode
      rw [reached] at shown
      obtain ⟨result, between, ended, rfl⟩ := shows_ok id _ _ shown memory
      obtain ⟨after, rest⟩ := ih (fun other among => answers other (List.mem_cons_of_mem cursor among)) between
      have accepts : pattern.accepts cursor = result := by
        rw [Pattern.accepts, reached]
        rfl
      refine ⟨after, ?_⟩
      rw [Pattern.matchesAmong, bind_of_ok _ _ memory between result ended, bind_of_ok _ _ between after _ rest,
        List.filter_cons, accepts]
      rfl

section

variable (pattern : Pattern) (slot : String) (free : slot ∉ pattern.guardSlots)

include free

theorem match_captures (entry : List Nat × Pattern) (last : lastCarrier? slot pattern.postorder = some entry)
    (cursor : Cursor) (memory after : Memory) (matched : pattern.matchAt cursor memory = .ok true after) :
    after.slots slot = some (cursor.descend entry.1) := by
  obtain ⟨undo, lined⟩ := settle_true _ memory after matched
  rw [align_captures slot pattern cursor [] free memory undo after lined, last]
  rfl

theorem matches_among_captures (entry : List Nat × Pattern) (last : lastCarrier? slot pattern.postorder = some entry)
    (cursors found : List Cursor) (memory after : Memory)
    (ended : pattern.matchesAmong cursors memory = .ok found after) :
    after.slots slot = (found.getLast?.map fun cursor => cursor.descend entry.1).or (memory.slots slot) := by
  induction cursors generalizing memory found with
  | nil =>
      cases ended
      rfl
  | cons cursor cursors ih =>
      obtain ⟨matched, between, rest, began, searched, rfl⟩ :=
        matches_among_cons pattern cursor cursors found memory after ended
      rw [ih rest between searched]
      cases matched with
      | false =>
          rw [settle_restores _ (align_framed slot pattern cursor [] free) memory between began]
          rfl
      | true =>
          rw [match_captures pattern slot free entry last cursor memory between began]
          cases further : rest.getLast? <;> simp [List.getLast?_cons, further]

end

theorem forest_parts (pattern : Pattern) (root : Tree) (address : List Nat) (trees : List Tree) (index : Nat)
    (placed : Placed root address index trees) :
    pattern.matchesAmong ((Tree.forestAddresses index trees).map fun rest => .inTree root (address ++ rest))
      = (do
          let parts ← ((List.range' index trees.length).map fun (child : Nat) =>
              Cursor.inTree root (address ++ [child])).mapM fun child => pattern.findAll (.cursor child)
          pure parts.flatten) := by
  induction trees generalizing index with
  | nil => simp [Tree.forestAddresses, Pattern.matchesAmong]
  | cons tree trees ih =>
      have here := placed_first root tree address index trees placed
      have later := ih (index + 1) (placed_rest root tree address index trees placed)
      have first := find_all_in_tree pattern root tree (address ++ [index]) here
      have subtree : (([] :: tree.addressesBelow).map (index :: ·)).map
          (fun rest => Cursor.inTree root (address ++ rest))
          = ([] :: tree.addressesBelow).map fun rest => Cursor.inTree root (address ++ [index] ++ rest) := by
        simp
      rw [Tree.forestAddresses, List.map_append, matches_among_append, later, subtree, ← first, List.length_cons,
        List.range'_succ, List.map_cons, List.mapM_cons]
      simp

theorem find_all_unfolds (pattern : Pattern) (tree node : Tree) (address : List Nat)
    (inside : tree.subtreeAt address = some node) :
    pattern.findAll (.cursor (.inTree tree address)) = (do
      let here ← pattern.matchAt (.inTree tree address)
      let parts ← (← (Cursor.inTree tree address).children).mapM fun child => pattern.findAll (.cursor child)
      pure ((if here then [.inTree tree address] else []) ++ parts.flatten)) := by
  have below := forest_parts pattern tree address node.children 0 (children_placed tree node address inside)
  rw [find_all_in_tree _ tree node address inside, List.map_cons, List.append_nil, Pattern.matchesAmong,
    Tree.addresses_below_children, below, Cursor.children_in_tree tree node address inside, ← List.range_eq_range']
  have lifted : ∀ cursors : List Cursor, (liftM (Except.ok cursors : Except Fault (List Cursor)) : Run (List Cursor))
      = pure cursors := fun _ => rfl
  simp only [lifted, pure_bind, bind_assoc]
  congr 1
  funext matched
  cases matched <;> simp

theorem mem_subtree (tree node : Tree) (address rest : List Nat) (inside : tree.subtreeAt address = some node) :
    rest ∈ [] :: node.addressesBelow ↔ (tree.subtreeAt (address ++ rest)).isSome := by
  rw [List.mem_cons, mem_below tree node address rest inside]
  by_cases top : rest = []
  · simp [top, inside]
  · simp [top]

theorem accepts_iff (pattern : Pattern) (cursor : Cursor) (answer : Bool) (fromNode : pattern.FromNode)
    (reached : pattern.verdict cursor = .ok answer) (memory : Memory) :
    pattern.accepts cursor = true ↔ ∃ after, pattern.matchAt cursor memory = .ok true after := by
  have shown := match_at_shows pattern cursor fromNode
  rw [reached] at shown
  obtain ⟨result, after, ended, rfl⟩ := shows_ok id _ _ shown memory
  rw [ended, Pattern.accepts, reached]
  constructor
  · rintro rfl
    exact ⟨after, rfl⟩
  · rintro ⟨_, same⟩
    cases same
    rfl

def Pattern.accepted (pattern : Pattern) (tree : Tree) (address : List Nat) (node : Tree) : List (List Nat) :=
  (([] :: node.addressesBelow).map (address ++ ·)).filter fun other => pattern.accepts (.inTree tree other)

theorem accepted_ascending (pattern : Pattern) (tree : Tree) (address : List Nat) (node : Tree) :
    (pattern.accepted tree address node).Pairwise (· < ·) := by
  refine List.Pairwise.filter _ (List.pairwise_map.mpr ?_)
  exact (Tree.addresses_ascending node).imp fun before => List.append_left_lt before

section

variable (pattern : Pattern) (tree node : Tree) (address : List Nat) (here : tree.subtreeAt address = some node)

include here

theorem mem_accepted (other : List Nat) : other ∈ pattern.accepted tree address node ↔
    (∃ rest, (tree.subtreeAt (address ++ rest)).isSome ∧ other = address ++ rest)
      ∧ pattern.accepts (.inTree tree other) = true := by
  simp only [Pattern.accepted, List.mem_filter, List.mem_map, mem_subtree tree node address _ here, eq_comm]

theorem find_all_captures (slot : String) (own : slot ∈ pattern.ownSlots) (free : slot ∉ pattern.guardSlots)
    (found : List Cursor) (memory after : Memory)
    (ended : pattern.findAll (.cursor (.inTree tree address)) memory = .ok found after) :
    (found = [] → after.slots slot = memory.slots slot)
      ∧ ∀ last, found.getLast? = some last → ∀ start single,
        pattern.matchAt last start = .ok true single → after.slots slot = single.slots slot := by
  obtain ⟨entry, carrier, _⟩ := last_carrier_of_own slot pattern own
  rw [find_all_in_tree pattern tree node address here] at ended
  have captured := matches_among_captures pattern slot free entry carrier _ found memory after ended
  constructor
  · rintro rfl
    exact captured
  · intro last final start single matched
    rw [captured, final, match_captures pattern slot free entry carrier last start single matched]
    rfl

variable (fromNode : pattern.FromNode) (judged : ∀ rest, (tree.subtreeAt (address ++ rest)).isSome →
  ∃ answer, pattern.verdict (.inTree tree (address ++ rest)) = .ok answer)

include fromNode judged

theorem find_all_accepted (memory : Memory) :
    ∃ after, pattern.findAll (.cursor (.inTree tree address)) memory
      = .ok ((pattern.accepted tree address node).map (.inTree tree)) after := by
  have reached : ∀ cursor ∈ ([] :: node.addressesBelow).map fun rest => Cursor.inTree tree (address ++ rest),
      ∃ answer, pattern.verdict cursor = .ok answer := by
    intro cursor among
    obtain ⟨rest, within, rfl⟩ := List.mem_map.mp among
    exact judged rest ((mem_subtree tree node address rest here).mp within)
  obtain ⟨after, ended⟩ := matches_among_accepts pattern fromNode _ reached memory
  refine ⟨after, ?_⟩
  rw [find_all_in_tree pattern tree node address here, ended, Pattern.accepted, List.filter_map, List.filter_map,
    List.map_map]
  rfl

theorem mem_found (cursor : Cursor) (memory : Memory) :
    cursor ∈ (pattern.accepted tree address node).map (.inTree tree) ↔
      (∃ rest, (tree.subtreeAt (address ++ rest)).isSome ∧ cursor = .inTree tree (address ++ rest))
        ∧ ∃ after, pattern.matchAt cursor memory = .ok true after := by
  rw [List.mem_map]
  constructor
  · rintro ⟨other, within, rfl⟩
    obtain ⟨⟨rest, below, rfl⟩, accepts⟩ := (mem_accepted pattern tree node address here other).mp within
    obtain ⟨answer, reached⟩ := judged rest below
    exact ⟨⟨rest, below, rfl⟩, (accepts_iff pattern _ answer fromNode reached memory).mp accepts⟩
  · rintro ⟨⟨rest, below, rfl⟩, matched⟩
    obtain ⟨answer, reached⟩ := judged rest below
    have accepts := (accepts_iff pattern _ answer fromNode reached memory).mpr matched
    have among := (mem_accepted pattern tree node address here _).mpr ⟨⟨rest, below, rfl⟩, accepts⟩
    exact ⟨address ++ rest, among, rfl⟩

end

/-- A search in a subtree of a tree finds the nodes at which the pattern matches, each once and in
preorder, if the guards look at the node alone and raise no fault. A slot that only the pattern's own
nodes carry holds what the match at the last of them has captured. -/
theorem find_all_in_preorder (pattern : Pattern) (tree : Tree) (address : List Nat)
    (inside : (tree.subtreeAt address).isSome) (fromNode : pattern.FromNode)
    (answers : pattern.GuardsAnswer tree (address = [])) : ∃ found, pattern.FindsIn tree address found := by
  obtain ⟨node, here⟩ := Option.isSome_iff_exists.mp inside
  have judged : ∀ rest, (tree.subtreeAt (address ++ rest)).isSome →
      ∃ answer, pattern.verdict (.inTree tree (address ++ rest)) = .ok answer :=
    fun rest below => verdict_answers pattern (address ++ rest) fromNode answers below (by simp +contextual)
  have searched := find_all_accepted pattern tree node address here fromNode judged
  have ascending := accepted_ascending pattern tree address node
  have matching := fun cursor => is_matching_at pattern cursor answers
  refine ⟨(pattern.accepted tree address node).map (.inTree tree), searched, ?_, ?_, ?_, ?_, ?_, ?_⟩
  · intro cursor memory
    rw [matching]
    exact mem_found pattern tree node address here fromNode judged cursor memory
  · refine List.pairwise_map.mpr (ascending.imp fun before same => ?_)
    exact List.lt_irrefl _ (Cursor.in_tree_inj same ▸ before)
  · refine ⟨_, ascending, fun other within => ?_, rfl⟩
    obtain ⟨⟨rest, _, rfl⟩, _⟩ := (mem_accepted pattern tree node address here other).mp within
    exact List.prefix_append address rest
  · rw [matching]
    exact find_all_unfolds pattern tree node address here
  · intro memory after slot own free empty ended
    exact (find_all_captures pattern tree node address here slot own free _ memory after ended).1 empty
  · intro memory after slot own free last final ended start single matched
    rw [matching] at matched
    exact (find_all_captures pattern tree node address here slot own free _ memory after ended).2 last final start
      single matched

end

def filterBeforeMark : Pattern :=
  .node (.exactly (.carrier .filter)) []
    (some (.nextSibling (.node (.exactly (.carrier .mark)) [] (some (.childCountIs (.int 1))) (some "mark"))))
    (some "last")

theorem filter_before_mark_from_node : filterBeforeMark.FromNode :=
  ⟨trivial, trivial, fun _ _ _ => rfl⟩

theorem filter_before_mark_answers (tree : Tree) (rooted : Prop) : filterBeforeMark.GuardsAnswer tree rooted :=
  guards_answer filterBeforeMark filter_before_mark_from_node ⟨trivial, trivial, child_count_is_answers _ _ _⟩

theorem find_all_in_preorder_two_filters :
    (filtersAndMark.subtreeAt [0]).isSome ∧ filterBeforeMark.FromNode
      ∧ filterBeforeMark.GuardsAnswer filtersAndMark ([0] = [])
      ∧ (∃ found, filterBeforeMark.FindsIn filtersAndMark [0] found)
      ∧ ∃ after, filterBeforeMark.findAll (.cursor (.inTree filtersAndMark [0])) .empty
          = .ok [.inTree filtersAndMark [0, 0], .inTree filtersAndMark [0, 1]] after
        ∧ after.slots "last" = some (.inTree filtersAndMark [0, 1]) :=
  ⟨rfl, filter_before_mark_from_node, filter_before_mark_answers filtersAndMark _,
    find_all_in_preorder filterBeforeMark filtersAndMark [0] rfl filter_before_mark_from_node
      (filter_before_mark_answers filtersAndMark _), _, rfl, rfl⟩

end ScheduleShape
