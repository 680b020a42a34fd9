import ScheduleShape.Cursor.Navigate
import ScheduleShape.Pattern.Relocation
import ScheduleShape.Proofs.Cursor.InTree

set_option autoImplicit false

namespace ScheduleShape

variable [Affine]

namespace Relocation

structure Inside (move : Relocation) (level : Level) (cursor : Cursor) : Prop where
  root : cursor.root = .tree move.part
  proper : level = .below → cursor.path ≠ []

inductive Lifted (move : Relocation) : Except Fault (List Cursor) → Except Fault (List Cursor) → Prop where
  | error (fault : Fault) : Lifted move (.error fault) (.error fault)
  | ok (found : List Cursor) (inside : ∀ cursor ∈ found, move.Inside .below cursor) :
      Lifted move (.ok (found.map move.lift)) (.ok found)

variable (move : Relocation)

theorem inside_start : move.Inside .top (.startTree move.part) where
  root := rfl
  proper := by
    intro below
    cases below

theorem inside_top (cursor : Cursor) (level : Level) (inside : move.Inside level cursor) :
    move.Inside .top cursor where
  root := inside.root
  proper := by
    intro below
    cases below

theorem lift_start : move.lift (.startTree move.part) = .inTree move.tree move.address :=
  Cursor.eq_of_place rfl (List.append_nil _)

theorem inside_follow (cursor : Cursor) (step : Step) (root : cursor.root = .tree move.part) :
    move.Inside .below (cursor.follow step) where
  root := root
  proper _ := by simp [Cursor.follow]

theorem lift_follow (cursor : Cursor) (step : Step) :
    move.lift (cursor.follow step) = (move.lift cursor).follow step :=
  Cursor.eq_of_place rfl (List.append_assoc _ _ _).symm

theorem inside_descend (cursor : Cursor) (root : cursor.root = .tree move.part) (address : List Nat)
    (proper : address ≠ []) : move.Inside .below (cursor.descend address) where
  root := (Cursor.descend_root cursor address).trans root
  proper _ := by
    simpa [Cursor.stepsOf] using fun _ => proper

theorem lift_descend (cursor : Cursor) (address : List Nat) :
    move.lift (cursor.descend address) = (move.lift cursor).descend address := by
  induction address generalizing cursor with
  | nil => rfl
  | cons index address ih =>
      rw [Cursor.descend, ih, lift_follow]
      rfl

theorem lift_up (cursor : Cursor) (proper : cursor.path ≠ []) :
    move.lift cursor.up = (move.lift cursor).up :=
  Cursor.eq_of_place rfl (List.dropLast_append_of_ne_nil proper).symm

theorem lift_last (cursor : Cursor) (proper : cursor.path ≠ []) :
    (move.lift cursor).path.getLast? = cursor.path.getLast? := by
  change (Cursor.stepsOf move.address ++ cursor.path).getLast? = _
  rw [List.getLast?_append, List.getLast?_eq_some_getLast proper]
  rfl

theorem lift_index (cursor : Cursor) (proper : cursor.path ≠ []) :
    (move.lift cursor).index = cursor.index := by
  rw [Cursor.index, lift_last move cursor proper, Cursor.index]

section

variable (cursor : Cursor) (root : cursor.root = .tree move.part)

include root

theorem lift_found : (move.lift cursor).found = cursor.found := by
  rw [(move.lift cursor).found_eq, cursor.found_eq, root]
  change (Item.tree move.tree).walk (Cursor.stepsOf move.address ++ cursor.path) = _
  rw [Item.walk_past, walk_steps_of move.tree move.part move.address move.inside]
  rfl

theorem lift_kind : (move.lift cursor).kind = cursor.kind := by
  rw [Cursor.kind, lift_found move cursor root, Cursor.kind]

theorem lift_child_count : (move.lift cursor).childCount = cursor.childCount := by
  rw [Cursor.childCount, lift_found move cursor root, Cursor.childCount]

theorem children_lifted : move.Lifted (move.lift cursor).children cursor.children := by
  rw [Cursor.children, lift_child_count move cursor root, Cursor.children]
  cases cursor.childCount with
  | error fault => exact .error fault
  | ok count =>
      have same : (List.range count).map (fun (index : Nat) => (move.lift cursor).follow (.child index))
          = ((List.range count).map fun (index : Nat) => cursor.follow (.child index)).map move.lift := by
        rw [List.map_map]
        exact List.map_congr_left fun index _ => (lift_follow move cursor _).symm
      change move.Lifted (.ok _) (.ok _)
      rw [same]
      apply Lifted.ok
      intro child member
      obtain ⟨index, _, rfl⟩ := List.mem_map.mp member
      exact inside_follow move cursor _ root

theorem descendants_lifted : move.Lifted (move.lift cursor).descendants cursor.descendants := by
  rw [Cursor.descendants, lift_found move cursor root, Cursor.descendants]
  cases cursor.found with
  | error fault => exact .error fault
  | ok item =>
      cases item with
      | content held => exact .error _
      | tree node =>
          have same : (move.lift cursor).below node = (cursor.below node).map move.lift := by
            rw [Cursor.below_eq, Cursor.below_eq, List.map_map]
            exact List.map_congr_left fun address _ => (lift_descend move cursor address).symm
          change move.Lifted (.ok _) (.ok _)
          rw [same]
          apply Lifted.ok
          intro below member
          rw [Cursor.below_eq] at member
          obtain ⟨address, among, rfl⟩ := List.mem_map.mp member
          exact inside_descend move cursor root address ((Tree.mem_addresses_below node address).mp among).1

end

-- The siblings are children of the parent, which is in the subtree when the cursor is below its top.
section

variable (cursor : Cursor) (inside : move.Inside .below cursor)

include inside

theorem prev_siblings_lifted : move.Lifted (move.lift cursor).prevSiblings cursor.prevSiblings := by
  have proper := inside.proper rfl
  have siblings := children_lifted move cursor.up inside.root
  rw [Cursor.prevSiblings, lift_last move cursor proper, ← lift_up move cursor proper, Cursor.prevSiblings]
  generalize (move.lift cursor.up).children = outer, cursor.up.children = inner at siblings
  cases cursor.path.getLast? with
  | none => exact .ok [] (by simp)
  | some step =>
      cases siblings with
      | error fault => exact .error fault
      | ok found below =>
          change move.Lifted (.ok (before (found.map move.lift) step.index)) (.ok _)
          rw [before_map]
          exact .ok _ fun sibling member => below sibling (mem_of_before member)

theorem next_siblings_lifted : move.Lifted (move.lift cursor).nextSiblings cursor.nextSiblings := by
  have proper := inside.proper rfl
  have siblings := children_lifted move cursor.up inside.root
  rw [Cursor.nextSiblings, lift_last move cursor proper, ← lift_up move cursor proper, Cursor.nextSiblings]
  generalize (move.lift cursor.up).children = outer, cursor.up.children = inner at siblings
  cases cursor.path.getLast? with
  | none => exact .ok [] (by simp)
  | some step =>
      cases siblings with
      | error fault => exact .error fault
      | ok found below =>
          dsimp only
          cases step.index with
          | none => exact .error _
          | some index =>
              change move.Lifted (.ok (onward (found.map move.lift) (index + 1))) (.ok _)
              rw [onward_map]
              exact .ok _ fun sibling member => below sibling (List.mem_of_mem_drop member)

end

end Relocation

end ScheduleShape
