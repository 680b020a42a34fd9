import ScheduleShape.Affine.Boxes
import ScheduleShape.Proofs.Cursor.InTree
import ScheduleShape.Proofs.Schedule.Conversion

set_option autoImplicit false

namespace ScheduleShape

section

namespace SchedulePlace

theorem focus_below (schedule : Schedule) (address : List Nat) :
    ((start schedule).descend? address).map focus = schedule.subtreeAt address :=
  focus_of_descend (start schedule) address

theorem siblings_of_place (schedule : Schedule) (above : List Nat) (index : Nat) (place : SchedulePlace)
    (descended : (start schedule).descend? (above ++ [index]) = some place) :
    ∃ node, schedule.subtreeAt above = some node
      ∧ place.earlier = node.children.take index ∧ place.later = node.children.drop (index + 1) := by
  rw [descend_append] at descended
  obtain ⟨parent, reached, further⟩ := Option.bind_eq_some_iff.mp descended
  obtain ⟨child, entered, ended⟩ := Option.bind_eq_some_iff.mp further
  cases ended
  obtain ⟨up, position⟩ := parent_of_child parent place index entered
  refine ⟨parent.focus, ?_, ?_, ?_⟩
  · rw [← focus_below, reached]
    rfl
  · rw [earlier, up, position]
  · rw [later, up, position]

end SchedulePlace

variable [Affine]

namespace Cursor

theorem of_place_at (schedule : Schedule) (address : List Nat) (place : SchedulePlace)
    (descended : (SchedulePlace.start schedule).descend? address = some place) :
    ofPlace place = schedule.toTree.map fun tree => inTree tree address := by
  obtain ⟨sameRoot, sameAddress⟩ := SchedulePlace.climb_of_descend _ _ _ descended
  rw [ofPlace, sameRoot, sameAddress]
  change (schedule.toTree >>= fun tree => pure (inTree tree address)) = _
  cases schedule.toTree <;> rfl

theorem found_children (tree node : Tree) (parent : List Nat)
    (above : tree.subtreeAt parent = some node) :
    ((List.range node.children.length).map fun index => (inTree tree (parent ++ [index])).found)
      = node.children.map fun child => .ok (.tree child) := by
  apply List.ext_getElem
  · simp
  · intro index inRange within
    rw [List.length_map] at within
    have inside := child_at tree node _ parent index above (List.getElem?_eq_getElem within)
    simp [found_in_tree tree _ _ inside]

theorem siblings_rest (schedule : Schedule) (wellFormed : schedule.WellFormed) (whole : Tree)
    (converted : schedule.toTree = .ok whole) (above : List Nat) (index : Nat) (place : SchedulePlace)
    (descended : (SchedulePlace.start schedule).descend? (above ++ [index]) = some place) :
    (∃ cursors, (inTree whole (above ++ [index])).prevSiblings = .ok cursors
      ∧ RestOn cursors place.earlier)
    ∧ ∃ cursors, (inTree whole (above ++ [index])).nextSiblings = .ok cursors
      ∧ RestOn cursors place.later := by
  obtain ⟨node, inside, earlier, later⟩ :=
    SchedulePlace.siblings_of_place schedule above index place descended
  obtain ⟨part, found, partConverted⟩ :=
    Schedule.part_converted schedule wellFormed whole converted above node inside
  have formed := Schedule.well_formed_part schedule wellFormed node above inside
  have beside := Schedule.children_beside node formed part partConverted
  have rests := found_children whole part above found
  rw [earlier, later]
  constructor
  · refine ⟨_, prev_siblings_in_tree whole part above index found, part.children.take index,
      (Schedule.forest_beside _ _).mpr (List.forall₂_take index beside), ?_⟩
    rw [List.map_map, List.map_take, List.map_take]
    exact congrArg (List.take index) rests
  · refine ⟨_, next_siblings_in_tree whole part above index found, part.children.drop (index + 1),
      (Schedule.forest_beside _ _).mpr (List.forall₂_drop (index + 1) beside), ?_⟩
    rw [List.map_map, List.map_drop, List.map_drop]
    exact congrArg (List.drop (index + 1)) rests

section

variable (schedule : Schedule) (wellFormed : schedule.WellFormed) (address : List Nat)
  (place : SchedulePlace) (descended : (SchedulePlace.start schedule).descend? address = some place)
  (whole : Tree) (converted : schedule.toTree = .ok whole)

include wellFormed descended converted

theorem in_tree_portrays :
    ∃ part, (inTree whole address).Portrays schedule address place whole part := by
  have inside : schedule.subtreeAt address = some place.focus := by
    rw [← SchedulePlace.focus_below, descended]
    rfl
  obtain ⟨part, found, partConverted⟩ :=
    Schedule.part_converted schedule wellFormed whole converted address place.focus inside
  have formed := Schedule.well_formed_part schedule wellFormed place.focus address inside
  have siblings : (∃ cursors, (inTree whole address).prevSiblings = .ok cursors
      ∧ RestOn cursors place.earlier)
      ∧ ∃ cursors, (inTree whole address).nextSiblings = .ok cursors ∧ RestOn cursors place.later := by
    rcases List.eq_nil_or_concat address with root | ⟨above, index, below⟩
    · subst root
      cases descended
      exact ⟨⟨[], rfl, [], rfl, rfl⟩, ⟨[], rfl, [], rfl, rfl⟩⟩
    · rw [List.concat_eq_append] at below
      subst below
      exact siblings_rest schedule wellFormed whole converted above index place descended
  refine ⟨part, rfl, rfl, converted, found_in_tree whole part address found, partConverted, ?_,
    siblings.1, siblings.2⟩
  intro rest
  rw [Schedule.subtree_at_append, inside]
  exact Schedule.shown_at place.focus formed part partConverted rest

end

/-- A schedule and a node in it give a cursor unless the schedule contains an expansion anywhere; the
node alone has a tree unless it contains one itself. The cursor has the address of the node as its path
in the tree of the whole schedule, rests on the tree of the node, and shows every node from there on
and the siblings on both sides. -/
theorem of_place_portrays (schedule node : Schedule) (wellFormed : schedule.WellFormed)
    (address : List Nat) (inside : schedule.subtreeAt address = some node) :
    ∃ place, (SchedulePlace.start schedule).descend? address = some place ∧ place.focus = node
      ∧ ((∃ fault, ofPlace place = .error fault) ↔ schedule.Contains .expansion)
      ∧ ((∃ fault, node.toTree = .error fault) ↔ node.Contains .expansion)
      ∧ (∀ fault, ofPlace place = .error fault ∨ node.toTree = .error fault →
        fault = .unsupportedSchedule "schedule_node_type.expansion")
      ∧ (¬ schedule.Contains .expansion → ∃ cursor whole part, ofPlace place = .ok cursor
        ∧ cursor.Portrays schedule address place whole part) := by
  have formed := Schedule.well_formed_part schedule wellFormed node address inside
  rw [← SchedulePlace.focus_below] at inside
  obtain ⟨place, descended, focused⟩ := Option.map_eq_some_iff.mp inside
  have placed := of_place_at schedule address place descended
  have fails : ∀ fault, ofPlace place = .error fault ↔ schedule.toTree = .error fault := by
    intro fault
    rw [placed]
    cases schedule.toTree <;> simp [Except.map]
  refine ⟨place, descended, focused, ?_, Schedule.to_tree_fails_iff node formed, ?_, ?_⟩
  · rw [← Schedule.to_tree_fails_iff schedule wellFormed]
    exact exists_congr fails
  · rintro fault (failed | failed)
    · exact (Schedule.fault_is_expansion schedule wellFormed fault ((fails fault).mp failed)).2
    · exact (Schedule.fault_is_expansion node formed fault failed).2
  · intro free
    cases converted : schedule.toTree with
    | error fault =>
        exact absurd (Schedule.fault_is_expansion schedule wellFormed fault converted).1 free
    | ok whole =>
        rw [placed, converted]
        obtain ⟨part, portrayed⟩ :=
          in_tree_portrays schedule wellFormed address place descended whole converted
        exact ⟨_, whole, part, rfl, portrayed⟩

end Cursor

end

namespace Cursor

def plainFilter : Schedule := .node (.known (.carrier .filter)) "{ S[i] }" [.leaf]

def markedFilter : Schedule :=
  .node (.known (.carrier .filter)) "{ T[i] }" [.node (.known (.carrier .mark)) "inner" [.leaf]]

def twoFilters : Schedule :=
  .node (.known (.carrier .domain)) "{ S[i]; T[i] }"
    [.node (.known (.group .sequence)) "" [plainFilter, markedFilter]]

theorem two_filters_well_formed : twoFilters.WellFormed := by
  have leaf : Schedule.leaf.WellFormed :=
    Schedule.well_formed_node _ _ _ (by decide) (fun _ => rfl) (by simp)
  have mark := Schedule.well_formed_node (.known (.carrier .mark)) "inner" [.leaf] (by decide)
    (by decide) (by simpa using leaf)
  have marked : markedFilter.WellFormed :=
    Schedule.well_formed_node _ _ _ (by decide) (by decide) (by simpa using mark)
  have plain : plainFilter.WellFormed :=
    Schedule.well_formed_node _ _ _ (by decide) (by decide) (by simpa using leaf)
  have sequence := Schedule.well_formed_node (.known (.group .sequence)) ""
    [plainFilter, markedFilter] (by decide) (by decide) (by simpa using And.intro plain marked)
  exact Schedule.well_formed_node _ _ _ (by decide) (by decide) (by simpa using sequence)

theorem of_place_portrays_second_filter :
    twoFilters.WellFormed ∧ twoFilters.subtreeAt [0, 1] = some markedFilter
      ∧ ¬ twoFilters.Contains .expansion
      ∧ ∃ place cursor whole part,
        (SchedulePlace.start twoFilters).descend? [0, 1] = some place
          ∧ ofPlace place = .ok cursor ∧ cursor.Portrays twoFilters [0, 1] place whole part := by
  have free : ¬ twoFilters.Contains .expansion := by
    rw [← Schedule.to_tree_fails_iff twoFilters two_filters_well_formed]
    rintro ⟨fault, failed⟩
    cases failed
  obtain ⟨place, descended, _, _, _, _, portrayed⟩ :=
    of_place_portrays twoFilters markedFilter two_filters_well_formed [0, 1] rfl
  obtain ⟨cursor, whole, part, placed, portrays⟩ := portrayed free
  exact ⟨two_filters_well_formed, rfl, free, place, cursor, whole, part, descended, placed, portrays⟩

end Cursor

end ScheduleShape
