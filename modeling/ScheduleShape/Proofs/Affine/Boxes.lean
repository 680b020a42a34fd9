import ScheduleShape.Affine.Boxes

set_option autoImplicit false

namespace ScheduleShape

theorem length_of_all_some {α β : Type} (ask : α → Option β) (items : List α) (results : List β)
    (all : items.mapM ask = some results) : results.length = items.length := by
  induction items generalizing results with
  | nil =>
      cases all
      rfl
  | cons item items ih =>
      rw [List.mapM_cons] at all
      obtain ⟨first, _, further⟩ := Option.bind_eq_some_iff.mp all
      obtain ⟨rest, later, last⟩ := Option.bind_eq_some_iff.mp further
      cases last
      simp [ih rest later]

theorem expressions_length (access : BoxAccess) (expressions : List BoxExpression)
    (single : access.expressions? = some expressions) : expressions.length = access.arity := by
  rw [BoxAccess.expressions?] at single
  split at single
  · exact length_of_all_some _ _ expressions single
  · cases single

theorem function_of_expressions (access : BoxAccess) (expressions : List BoxExpression)
    (converted : access.function = .ok expressions) : access.expressions? = some expressions := by
  rw [BoxAccess.function] at converted
  cases known : access.expressions? with
  | none =>
      rw [known] at converted
      cases converted
  | some found =>
      rw [known] at converted
      cases converted
      rfl

theorem output_inside (expressions : List BoxExpression) (position : Nat) (inside : position < expressions.length) :
    outputAt expressions position = .ok expressions[position] := by
  rw [outputAt, List.getElem?_eq_getElem inside]

theorem boxes_answers : Affine.Answers where
  decided access := ⟨_, rfl⟩
  converted access single := by
    obtain ⟨expressions, known⟩ := Option.isSome_iff_exists.mp (Except.ok.inj single)
    refine ⟨expressions, ?_⟩
    change access.function = .ok expressions
    rw [BoxAccess.function, known]
  given access expressions converted position within := by
    have length := expressions_length access expressions (function_of_expressions access expressions converted)
    exact ⟨_, output_inside expressions position (Nat.lt_of_lt_of_eq within length.symm)⟩
  compared first second := ⟨_, rfl⟩

theorem boxes_equivalence : Equivalence Affine.Same where
  refl expression := congrArg Except.ok expression.agrees_refl
  symm same := congrArg Except.ok (BoxExpression.agrees_symm (Except.ok.inj same))
  trans same further := congrArg Except.ok (BoxExpression.agrees_trans (Except.ok.inj same) (Except.ok.inj further))

end ScheduleShape
