import Mathlib.Data.List.Forall2
import ScheduleShape.Cursor.Portrait

set_option autoImplicit false

namespace ScheduleShape

theorem beside_at {α β : Type} {related : α → β → Prop} {items : List α} {others : List β}
    (beside : List.Forall₂ related items others) (index : Nat) :
    Option.Rel related items[index]? others[index]? := by
  induction beside generalizing index with
  | nil => exact .none
  | cons first rest ih =>
      cases index with
      | zero => exact .some first
      | succ index => exact ih index

theorem related_bind {α β γ δ : Type} {related : α → β → Prop} {related' : γ → δ → Prop}
    {one : Option α} {two : Option β} {next : α → Option γ} {next' : β → Option δ}
    (there : Option.Rel related one two)
    (onward : ∀ item other, one = some item → related item other →
      Option.Rel related' (next item) (next' other)) :
    Option.Rel related' (one.bind next) (two.bind next') := by
  cases there with
  | none => exact .none
  | some same => exact onward _ _ rfl same

namespace Schedule

theorem well_formed_part (schedule : Schedule) (wellFormed : schedule.WellFormed) (node : Schedule)
    (address : List Nat) (inside : schedule.subtreeAt address = some node) : node.WellFormed where
  noError := by
    rintro ⟨rest, below, found, isError⟩
    have reached : schedule.subtreeAt (address ++ rest) = some below := by
      rw [subtree_at_append, inside]
      exact found
    exact wellFormed.noError ⟨address ++ rest, below, reached, isError⟩
  leaves rest below found := by
    have reached : schedule.subtreeAt (address ++ rest) = some below := by
      rw [subtree_at_append, inside]
      exact found
    exact wellFormed.leaves (address ++ rest) below reached

theorem well_formed_node (kind : ScheduleKind) (payload : String) (children : List Schedule)
    (noError : kind ≠ .error) (leaf : kind = .known .leaf → children = [])
    (below : ∀ child ∈ children, child.WellFormed) : (node kind payload children).WellFormed where
  noError := by
    rintro ⟨address, found, inside, isError⟩
    cases address with
    | nil =>
        cases inside
        exact noError isError
    | cons index rest =>
        obtain ⟨child, there, further⟩ := Option.bind_eq_some_iff.mp inside
        exact (below child (List.mem_of_getElem? there)).noError ⟨rest, found, further, isError⟩
  leaves address found inside isLeaf := by
    cases address with
    | nil =>
        cases inside
        exact leaf isLeaf
    | cons index rest =>
        obtain ⟨child, there, further⟩ := Option.bind_eq_some_iff.mp inside
        exact (below child (List.mem_of_getElem? there)).leaves rest found further isLeaf

end Schedule

variable [Affine]

namespace Schedule

theorem forest_beside (schedules : List Schedule) (trees : List Tree) :
    forestToTrees schedules = .ok trees ↔
      List.Forall₂ (fun schedule tree => schedule.toTree = .ok tree) schedules trees := by
  induction schedules generalizing trees with
  | nil =>
      rw [List.forall₂_nil_left_iff, forestToTrees]
      exact ⟨fun same => (Except.ok.inj same).symm, fun same => congrArg Except.ok same.symm⟩
  | cons schedule schedules ih =>
      rw [List.forall₂_cons_left_iff, forestToTrees]
      simp only [both_ok_iff, ih]
      constructor
      · rintro ⟨tree, converted, others, beside, ended⟩
        cases ended
        exact ⟨tree, others, converted, beside, rfl⟩
      · rintro ⟨tree, others, converted, beside, rfl⟩
        exact ⟨tree, converted, others, beside, rfl⟩

theorem to_tree_root (schedule : Schedule) (tree : Tree) (converted : schedule.toTree = .ok tree) :
    schedule.kind = .known tree.kind
      ∧ (∀ kind, tree.kind = .carrier kind → tree.payload = .object (Affine.payload kind schedule.payload))
      ∧ (tree = .leaf ∨ forestToTrees schedule.children = .ok tree.children) := by
  obtain ⟨kind, payload, children⟩ := schedule
  rw [toTree, both_ok_iff] at converted
  obtain ⟨known, supported, built⟩ := converted
  have same : kind = .known known := by
    cases kind with
    | known held =>
        cases supported
        rfl
    | expansion => cases supported
    | error => cases supported
  subst same
  cases known with
  | leaf =>
      cases built
      exact ⟨rfl, by simp [Tree.kind], .inl rfl⟩
  | group held =>
      obtain ⟨trees, below, ended⟩ := (both_ok_iff _ _ _).mp built
      cases ended
      exact ⟨rfl, by simp [Tree.kind], .inr below⟩
  | carrier held =>
      obtain ⟨trees, below, ended⟩ := (both_ok_iff _ _ _).mp built
      cases ended
      refine ⟨rfl, ?_, .inr below⟩
      intro other same
      cases same
      rfl

section

variable (schedule : Schedule) (wellFormed : schedule.WellFormed) (tree : Tree)
  (converted : schedule.toTree = .ok tree)

include wellFormed converted

theorem children_beside :
    List.Forall₂ (fun child tree => child.toTree = .ok tree) schedule.children tree.children := by
  obtain ⟨kind, _, isLeaf | below⟩ := to_tree_root schedule tree converted
  · subst isLeaf
    rw [wellFormed.leaves [] schedule rfl kind]
    exact .nil
  · exact (forest_beside _ _).mp below

theorem shown_by_tree : schedule.ShownBy tree := by
  obtain ⟨kind, payload, _⟩ := to_tree_root schedule tree converted
  exact ⟨kind, (children_beside schedule wellFormed tree converted).length_eq, payload⟩

theorem converted_at (address : List Nat) :
    Option.Rel (fun node part => node.toTree = .ok part) (schedule.subtreeAt address)
      (tree.subtreeAt address) := by
  induction address generalizing schedule tree with
  | nil => exact .some converted
  | cons index address ih =>
      have children := beside_at (children_beside schedule wellFormed tree converted) index
      rw [subtreeAt, Tree.subtreeAt]
      apply related_bind children
      intro child part found converted
      have reached : schedule.subtreeAt [index] = some child := by
        rw [subtreeAt, found]
        rfl
      exact ih child (well_formed_part schedule wellFormed child [index] reached) part converted

theorem shown_at (address : List Nat) :
    Option.Rel ShownBy (schedule.subtreeAt address) (tree.subtreeAt address) := by
  rw [← Option.bind_fun_some (schedule.subtreeAt address),
    ← Option.bind_fun_some (tree.subtreeAt address)]
  apply related_bind (converted_at schedule wellFormed tree converted address)
  intro node part inside same
  have formed := well_formed_part schedule wellFormed node address inside
  exact .some (shown_by_tree node formed part same)

theorem part_converted (address : List Nat) (node : Schedule)
    (inside : schedule.subtreeAt address = some node) :
    ∃ part, tree.subtreeAt address = some part ∧ node.toTree = .ok part := by
  have there := converted_at schedule wellFormed tree converted address
  rw [inside] at there
  cases found : tree.subtreeAt address with
  | none =>
      rw [found] at there
      cases there
  | some part =>
      rw [found] at there
      cases there with
      | some same => exact ⟨part, rfl, same⟩

end

mutual

theorem to_tree_fault (schedule : Schedule) (fault : Fault) (failed : schedule.toTree = .error fault) :
    ∃ (address : List Nat) (node : Schedule), schedule.subtreeAt address = some node
      ∧ node.kind.toKind = .error fault := by
  cases schedule with
  | node kind payload children =>
      rw [toTree, one_fails_iff] at failed
      rcases failed with unsupported | ⟨known, _, failed⟩
      · exact ⟨[], _, rfl, unsupported⟩
      · have below : forestToTrees children = .error fault := by
          cases known with
          | leaf => cases failed
          | group held => exact fails_before_pure _ _ fault failed
          | carrier held => exact fails_before_pure _ _ fault failed
        obtain ⟨index, child, found, address, node, inside, unsupported⟩ :=
          forest_fault children fault below
        refine ⟨index :: address, node, ?_, unsupported⟩
        rw [subtreeAt, Schedule.children, found]
        exact inside

theorem forest_fault (schedules : List Schedule) (fault : Fault)
    (failed : forestToTrees schedules = .error fault) :
    ∃ (index : Nat) (schedule : Schedule), schedules[index]? = some schedule
      ∧ ∃ (address : List Nat) (node : Schedule), schedule.subtreeAt address = some node
        ∧ node.kind.toKind = .error fault := by
  cases schedules with
  | nil => cases failed
  | cons schedule schedules =>
      rw [forestToTrees, one_fails_iff] at failed
      rcases failed with here | ⟨tree, _, failed⟩
      · exact ⟨0, schedule, rfl, to_tree_fault schedule fault here⟩
      · have later := fails_before_pure _ _ fault failed
        obtain ⟨index, below, found, inside⟩ := forest_fault schedules fault later
        exact ⟨index + 1, below, found, inside⟩

end

section

variable (schedule : Schedule) (wellFormed : schedule.WellFormed)

include wellFormed

theorem fault_is_expansion (fault : Fault) (failed : schedule.toTree = .error fault) :
    schedule.Contains .expansion ∧ fault = .unsupportedSchedule "schedule_node_type.expansion" := by
  obtain ⟨address, node, inside, unsupported⟩ := to_tree_fault schedule fault failed
  cases kind : node.kind with
  | known held =>
      rw [kind] at unsupported
      cases unsupported
  | expansion =>
      rw [kind] at unsupported
      cases unsupported
      exact ⟨⟨address, node, inside, kind⟩, rfl⟩
  | error => exact absurd ⟨address, node, inside, kind⟩ wellFormed.noError

theorem to_tree_fails_iff :
    (∃ fault, schedule.toTree = .error fault) ↔ schedule.Contains .expansion := by
  constructor
  · rintro ⟨fault, failed⟩
    exact (fault_is_expansion schedule wellFormed fault failed).1
  · rintro ⟨address, node, inside, isExpansion⟩
    cases converted : schedule.toTree with
    | error fault => exact ⟨fault, rfl⟩
    | ok tree =>
        obtain ⟨part, _, partConverted⟩ :=
          part_converted schedule wellFormed tree converted address node inside
        have known := (to_tree_root node part partConverted).1
        rw [isExpansion] at known
        cases known

end

end Schedule

end ScheduleShape
