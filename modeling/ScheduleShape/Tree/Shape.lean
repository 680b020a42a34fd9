import ScheduleShape.Tree.Basic

set_option autoImplicit false

namespace ScheduleShape.Tree

variable [Affine]

def outline (tree : Tree) : Kind × Nat := (tree.kind, tree.children.length)

def SameShape (tree other : Tree) : Prop :=
  ∀ address, (tree.subtreeAt address).map outline = (other.subtreeAt address).map outline

mutual

def Regular : Tree → Prop
  | carrier _ _ children => children.length = 1 ∧ ForestRegular children
  | group _ children => children ≠ [] ∧ ForestRegular children
  | leaf => True

def ForestRegular : List Tree → Prop
  | [] => True
  | tree :: trees => tree.Regular ∧ ForestRegular trees

end

theorem subtree_at_index (tree node : Tree) (address : List Nat) (index : Nat)
    (here : tree.subtreeAt address = some node) :
    tree.subtreeAt (address ++ [index]) = node.children[index]? := by
  rw [subtree_at_append, here, Option.bind_some, subtreeAt]
  cases node.children[index]? <;> rfl

theorem same_shape_refl (tree : Tree) : tree.SameShape tree :=
  fun _ => rfl

section

variable {tree other : Tree}

theorem same_shape_outline (alike : tree.SameShape other) :
    tree.kind = other.kind ∧ tree.children.length = other.children.length :=
  Prod.mk.inj (Option.some.inj (alike []))

theorem same_shape_at (alike : tree.SameShape other) (address : List Nat) (node : Tree)
    (here : tree.subtreeAt address = some node) :
    ∃ twin, other.subtreeAt address = some twin ∧ node.SameShape twin := by
  have there := alike address
  rw [here] at there
  obtain ⟨twin, found, _⟩ := Option.map_eq_some_iff.mp there.symm
  refine ⟨twin, found, fun rest => ?_⟩
  have further := alike (address ++ rest)
  rwa [subtree_at_append, subtree_at_append, here, found] at further

theorem same_shape_iff : tree.SameShape other ↔
    tree.kind = other.kind ∧ tree.children.length = other.children.length
      ∧ ∀ (index : Nat) (child : Tree), tree.children[index]? = some child →
        ∃ twin, other.children[index]? = some twin ∧ child.SameShape twin := by
  constructor
  · intro alike
    obtain ⟨kind, count⟩ := same_shape_outline alike
    refine ⟨kind, count, fun index child found => ?_⟩
    rw [← subtree_at_index tree tree [] index rfl] at found
    obtain ⟨twin, there, below⟩ := same_shape_at alike _ child found
    exact ⟨twin, (subtree_at_index other other [] index rfl).symm.trans there, below⟩
  · rintro ⟨kind, count, children⟩ address
    cases address with
    | nil => exact congrArg some (Prod.ext kind count)
    | cons index rest =>
        rw [subtreeAt, subtreeAt]
        cases found : tree.children[index]? with
        | none =>
            have past : other.children[index]? = none := by
              rw [List.getElem?_eq_none_iff] at found ⊢
              omega
            rw [past]
        | some child =>
            obtain ⟨twin, there, below⟩ := children index child found
            rw [there]
            exact below rest

end

end ScheduleShape.Tree
