import ScheduleShape.Constraint.Agreement
import ScheduleShape.Proofs.Constraint.Applicable

set_option autoImplicit false

namespace ScheduleShape

theorem idx_of_past {α : Type} [DecidableEq α] (head item : α) (items : List α)
    (different : head ≠ item) : (head :: items).idxOf item = items.idxOf item + 1 := by
  have apart : (head == item) = false := by simpa using different
  rw [List.idxOf_cons, apart, cond_false]

theorem in_order_past {α : Type} [DecidableEq α] (head : α) (items chosen : List α)
    (ordered : chosen.Pairwise fun one two => items.idxOf one < items.idxOf two)
    (absent : head ∉ chosen) :
    chosen.Pairwise fun one two => (head :: items).idxOf one < (head :: items).idxOf two := by
  apply ordered.imp_of_mem
  intro one two here there less
  have oneLater : head ≠ one := fun same => absent (same ▸ here)
  have twoLater : head ≠ two := fun same => absent (same ▸ there)
  rw [idx_of_past head one items oneLater, idx_of_past head two items twoLater]
  omega

variable [Affine]

theorem confirmed_by_any (constraint : Constraint) (others : List Constraint)
    (comparable : Comparable others [constraint]) :
    constraint.confirmedBy (others.map .constraint)
      = .ok (others.any (·.confirms constraint)) := by
  induction others with
  | nil => rfl
  | cons other others ih =>
      have rest : Comparable others [constraint] := fun asked among held later =>
        comparable asked among held (List.mem_cons_of_mem other later)
      obtain ⟨answer, reached⟩ := comparable constraint List.mem_cons_self other List.mem_cons_self
      have confirms : other.confirms constraint = answer := by
        rw [Constraint.confirms, reached]
      rw [List.map_cons, Constraint.confirmedBy, reached, ih rest, List.any_cons, confirms]
      cases answer <;> rfl

theorem confirmed_agreed (others constraints : List Constraint) (reported : List Label)
    (comparable : Comparable others constraints) :
    confirmed (others.map .constraint) reported (constraints.map .constraint)
      = .ok (agreed others reported constraints) := by
  induction constraints generalizing reported with
  | nil => rfl
  | cons constraint constraints ih =>
      have rest : Comparable others constraints := fun asked later =>
        comparable asked (List.mem_cons_of_mem constraint later)
      have here : Comparable others [constraint] := fun asked among =>
        comparable asked (by simp_all)
      rw [List.map_cons, confirmed, agreed]
      by_cases known : constraint.label ∈ reported
      · rw [if_pos known, if_pos known]
        exact ih reported rest
      · rw [if_neg known, if_neg known, confirmed_by_any constraint others here]
        cases others.any (·.confirms constraint) with
        | true =>
            simp only [ok_bind, ih (constraint.label :: reported) rest]
            rfl
        | false => exact ih reported rest

namespace ConstraintList

@[simp]
theorem constraints_of_constraints (constraints : List Constraint) :
    constraintsOf (constraints.map .constraint) = .ok constraints := by
  induction constraints with
  | nil => rfl
  | cons constraint constraints ih => simp [constraintsOf, ih]

@[simp]
theorem not_empty_of_constraints (arity : Nat) (constraints : List Constraint) :
    (ofConstraints arity constraints).isEmpty = false := by
  simp only [isEmpty, ofConstraints, beq_eq_false_iff_ne]
  omega

theorem compare_agreed (arity other : Nat) (constraints others : List Constraint)
    (comparable : Comparable others constraints) :
    (ofConstraints arity constraints).compare (ofConstraints other others)
      = .ok (if arity ≠ other ∨ agreed others [] constraints = [] then empty
        else ofConstraints arity (agreed others [] constraints)) := by
  rw [compare, not_empty_of_constraints, not_empty_of_constraints]
  by_cases same : arity = other
  · subst same
    simp only [ofConstraints, confirmed_agreed others constraints [] comparable]
    cases agreed others [] constraints <;> simp
  · have differ : (arity : Int) ≠ other := by omega
    simp [ofConstraints, same, differ]

end ConstraintList

theorem mem_agreed_labels (others constraints : List Constraint) (reported : List Label)
    (label : Label) :
    label ∈ (agreed others reported constraints).map Constraint.label ↔
      label ∉ reported ∧ ∃ constraint ∈ constraints, constraint.label = label
        ∧ others.any (·.confirms constraint) = true := by
  induction constraints generalizing reported with
  | nil => simp [agreed]
  | cons constraint constraints ih =>
      simp only [agreed, List.mem_cons, exists_eq_or_imp]
      by_cases known : constraint.label ∈ reported
      · rw [if_pos known, ih]
        refine and_congr_right fun fresh => ?_
        have different : constraint.label ≠ label := by
          rintro rfl
          exact fresh known
        simp [different]
      · rw [if_neg known]
        cases confirms : others.any (·.confirms constraint) with
        | true =>
            rw [if_pos rfl, List.map_cons, List.mem_cons, ih]
            by_cases same : label = constraint.label
            · subst same
              simp [known]
            · simp [same, Ne.symm same]
        | false => simp [ih]

theorem agreed_labels_in_order (others constraints : List Constraint) (reported : List Label)
    (uniform : ∀ one ∈ constraints, ∀ two ∈ constraints, one.label = two.label →
      others.any (·.confirms one) = others.any (·.confirms two)) :
    ((agreed others reported constraints).map Constraint.label).Pairwise fun one two =>
      (constraints.map Constraint.label).idxOf one < (constraints.map Constraint.label).idxOf two := by
  induction constraints generalizing reported with
  | nil => exact List.Pairwise.nil
  | cons constraint constraints ih =>
      have rest : ∀ reported, ((agreed others reported constraints).map Constraint.label).Pairwise
          fun one two => (constraints.map Constraint.label).idxOf one
            < (constraints.map Constraint.label).idxOf two := fun reported => ih reported
        fun one here two there => uniform one (List.mem_cons_of_mem _ here) two (List.mem_cons_of_mem _ there)
      rw [agreed, List.map_cons]
      by_cases known : constraint.label ∈ reported
      · rw [if_pos known]
        apply in_order_past _ _ _ (rest reported)
        intro among
        exact ((mem_agreed_labels _ _ _ _).mp among).1 known
      · rw [if_neg known]
        cases confirms : others.any (·.confirms constraint) with
        | true =>
            have absent : constraint.label ∉
                (agreed others (constraint.label :: reported) constraints).map Constraint.label :=
              fun among => ((mem_agreed_labels _ _ _ _).mp among).1 List.mem_cons_self
            rw [if_pos rfl, List.map_cons, List.pairwise_cons]
            refine ⟨?_, in_order_past _ _ _ (rest _) absent⟩
            intro later among
            have different : constraint.label ≠ later := fun same => absent (same ▸ among)
            rw [List.idxOf_cons_self, idx_of_past _ _ _ different]
            omega
        | false =>
            rw [if_neg (by simp)]
            apply in_order_past _ _ _ (rest reported)
            intro among
            obtain ⟨_, other, here, same, confirmed⟩ := (mem_agreed_labels _ _ _ _).mp among
            have alike := uniform constraint List.mem_cons_self other (List.mem_cons_of_mem _ here) same.symm
            rw [confirms, confirmed] at alike
            cases alike

end ScheduleShape
