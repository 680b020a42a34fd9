import ScheduleShape.Proofs.Constraint.Candidates

set_option autoImplicit false

namespace ScheduleShape

section

variable [Affine]

theorem member_of_bindings (labels : List Label) (expressions : List Expression) (position : Nat) (label : Label)
    (expression : Expression) (labelled : labels[position]? = some label)
    (expressed : expressions[position]? = some expression) :
    (((labels.zip expressions).map constraintOf).map Operand.constraint)[position]?
      = some (.constraint { label, term := .expression expression }) := by
  have bound : (labels.zip expressions)[position]? = some (label, expression) :=
    List.getElem?_zip_eq_some.mpr ⟨labelled, expressed⟩
  rw [List.getElem?_map, List.getElem?_map, bound]
  rfl

namespace AccessMatcher

variable {matcher : AccessMatcher} {accesses : List Access} {lists : List ConstraintList}

theorem binds_of_applies (access : Access) (expressions : List Expression)
    (applies : matcher.Applies access expressions) :
    matcher.Binds expressions (.ofConstraints matcher.size ((matcher.labels.zip expressions).map constraintOf)) := by
  have length : expressions.length = matcher.labels.length := matcher.length_of_applies access expressions applies
  refine ⟨rfl, length, by simp [ConstraintList.ofConstraints, AccessMatcher.size, length], ?_⟩
  intro position label here
  have within : position < expressions.length := by
    rw [length]
    exact (List.getElem?_eq_some_iff.mp here).1
  have expressed := List.getElem?_eq_getElem within
  exact ⟨expressions[position], expressed, member_of_bindings _ _ position label _ here expressed⟩

theorem selects_candidates (answers : Affine.Answers) (equivalence : Equivalence Affine.Same)
    (matcher : AccessMatcher) (accesses : List Access) :
    matcher.Selects accesses (matcher.candidates accesses) := by
  rw [candidates]
  induction accesses with
  | nil => exact .nil
  | cons access accesses ih =>
      cases drawn : matcher.candidate? access with
      | none =>
          rw [List.filterMap_cons_none drawn]
          refine .passed (fun expressions applies => ?_) ih
          have made := (matcher.candidate_iff access answers equivalence _).mpr ⟨expressions, applies, rfl⟩
          rw [drawn] at made
          cases made
      | some list =>
          obtain ⟨expressions, applies, rfl⟩ := (matcher.candidate_iff access answers equivalence list).mp drawn
          rw [List.filterMap_cons_some drawn]
          exact .taken applies (binds_of_applies access expressions applies) ih

theorem bound_of_selected (selects : matcher.Selects accesses lists) (list : ConstraintList)
    (among : list ∈ lists) : ∃ expressions, matcher.Binds expressions list := by
  induction selects with
  | nil => cases among
  | taken _ binds _ ih =>
      rcases List.mem_cons.mp among with rfl | later
      · exact ⟨_, binds⟩
      · exact ih later
  | passed _ _ ih => exact ih among

theorem selects_none_iff (selects : matcher.Selects accesses lists) :
    lists = [] ↔ ∀ access ∈ accesses, ∀ expressions, ¬ matcher.Applies access expressions := by
  induction selects with
  | nil => simp
  | taken applies _ _ _ =>
      refine ⟨(fun same => nomatch same), fun unfit => ?_⟩
      exact absurd applies (unfit _ List.mem_cons_self _)
  | passed unfit _ ih =>
      rw [ih, List.forall_mem_cons]
      exact (and_iff_right unfit).symm

theorem not_empty_of_bound (expressions : List Expression) (list : ConstraintList)
    (binds : matcher.Binds expressions list) : list ≠ .empty := by
  rintro rfl
  have arity : (-1 : Int) = matcher.size := binds.arity
  omega

/-- From any relation a matcher draws one list for each access that it applies to, in their order, which
binds all the labels to the expressions at their places. Asked for one list it gives the last of these,
or the empty list just when it applies to no access. -/
theorem candidates_are_selected (answers : Affine.Answers) (equivalence : Equivalence Affine.Same)
    (matcher : AccessMatcher) (relation : Relation) (told : List Event) :
    ∃ lists last after, matcher.draw relation told = .ok lists after ∧ matcher.Selects relation.accesses lists
      ∧ matcher.drawLast relation told = .ok last after
      ∧ (∀ list, lists.getLast? = some list → last = list)
      ∧ (last = .empty ↔ ∀ access ∈ relation.accesses, ∀ expressions, ¬ matcher.Applies access expressions) := by
  have selects := selects_candidates answers equivalence matcher relation.accesses
  refine ⟨_, _, _, matcher.draw_ends answers relation told, selects, matcher.draw_last_ends answers relation told,
    ?_, ?_⟩
  · intro list final
    rw [final]
    rfl
  · rw [← selects_none_iff selects]
    cases final : (matcher.candidates relation.accesses).getLast? with
    | none => simp [List.getLast?_eq_none_iff.mp final]
    | some list =>
        have among := List.mem_of_getLast? final
        obtain ⟨expressions, binds⟩ := bound_of_selected selects list among
        exact iff_of_false (not_empty_of_bound expressions list binds) (List.ne_nil_of_mem among)

end AccessMatcher

end

def touching (array : String) (multiples : List (List Int)) : BoxAccess where
  first := {
    statement := { params := [], name := "S", dims := ["i", "j"], ranges := [.unbounded, .unbounded] }
    array
    outputs := multiples.map fun dims => .form { constant := 0, params := [], dims } }
  others := []

def twoReads : BoxUnion where
  params := []
  accesses := [touching "A" [[1, 0], [0, 1], [1, 0]], touching "B" [[0, 1], [0, 1], [0, 1]]]

def twoWrites : BoxUnion where
  params := []
  accesses := [touching "C" [[1, 0], [1, 0], [0, 0]], touching "D" [[0, 1], [1, 0], [0, 1]]]

def outerAlike : AccessMatcher where
  kind := .readAndWrite
  labels := [letterA, letterB, letterA]
  nonempty := List.cons_ne_nil _ _
  number := 0

def frontAlike : AccessMatcher where
  kind := .write
  labels := [letterA, letterA, letterB]
  nonempty := List.cons_ne_nil _ _
  number := 1

theorem candidates_are_selected_front :
    Affine.Answers ∧ Equivalence Affine.Same ∧ ∃ lists last after,
      frontAlike.draw (.union twoWrites) [] = .ok lists after ∧ lists.length = 1 ∧ after.length = 1
        ∧ frontAlike.Selects (Relation.union twoWrites).accesses lists
        ∧ frontAlike.drawLast (.union twoWrites) [] = .ok last after ∧ last ≠ .empty := by
  obtain ⟨lists, last, after, drawn, selects, drawnLast, final, _⟩ :=
    AccessMatcher.candidates_are_selected boxes_answers boxes_equivalence frontAlike (.union twoWrites) []
  have same := drawn
  cases same
  have some : last ≠ .empty := by
    rw [final _ rfl]
    intro empty
    cases congrArg ConstraintList.members empty
  exact ⟨boxes_answers, boxes_equivalence, _, _, _, drawn, rfl, rfl, selects, drawnLast, some⟩

end ScheduleShape
