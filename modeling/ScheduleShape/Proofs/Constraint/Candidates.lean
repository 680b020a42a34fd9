import ScheduleShape.Access.Ledger
import ScheduleShape.Proofs.Constraint.Applicable
import ScheduleShape.Proofs.Constraint.Backing
import ScheduleShape.Proofs.Follows

set_option autoImplicit false

namespace ScheduleShape

variable [Affine]

theorem label_of_binding (labels : List Label) (expressions : List Expression)
    (constraint : Constraint) (bound : constraint ∈ (labels.zip expressions).map constraintOf) :
    constraint.label ∈ labels := by
  obtain ⟨binding, among, rfl⟩ := List.mem_map.mp bound
  exact (List.of_mem_zip among).1

theorem bindings_comparable (answers : Affine.Answers) (others bindings : List (Label × Expression)) :
    Comparable (others.map constraintOf) (bindings.map constraintOf) := by
  intro constraint held other held'
  obtain ⟨binding, _, rfl⟩ := List.mem_map.mp held
  obtain ⟨binding', _, rfl⟩ := List.mem_map.mp held'
  rw [Constraint.agreesWith]
  split
  · exact answers.compared binding.2 binding'.2
  · exact ⟨false, rfl⟩

theorem row_terms_of_bindings (labels : List Label) (expressions : List Expression)
    (length : expressions.length = labels.length) :
    rowTerms labels (((labels.zip expressions).map constraintOf).map .constraint)
      = .ok (expressions.map .expression) := by
  induction labels generalizing expressions with
  | nil =>
      cases List.eq_nil_of_length_eq_zero length
      rfl
  | cons label labels ih =>
      cases expressions with
      | nil => cases length
      | cons expression expressions =>
          have rest := ih expressions (by simpa using length)
          have named : (constraintOf (label, expression)).label = label := rfl
          rw [List.zip_cons_cons, List.map_cons, List.map_cons, rowTerms, if_pos named, rest]
          rfl

@[simp]
theorem terms_of_constraints (arity : Int) (constraints : List Constraint) :
    (ConstraintList.ofConstraints arity constraints).terms = constraints.map Constraint.term := by
  rw [ConstraintList.terms, ConstraintList.ofConstraints, List.filterMap_map, ← List.filterMap_eq_map]
  rfl

theorem terms_of_bindings (arity : Int) (labels : List Label) (expressions : List Expression)
    (length : expressions.length = labels.length) :
    (ConstraintList.ofConstraints arity ((labels.zip expressions).map constraintOf)).terms
      = expressions.map .expression := by
  have second : (labels.zip expressions).map Prod.snd = expressions :=
    List.map_snd_zip (Nat.le_of_eq length)
  rw [terms_of_constraints, List.map_map, ← congrArg (List.map Operand.expression) second, List.map_map]
  rfl

-- A matcher tells of the accesses that it rejects and draws one list from each of the others.
def Draws {α : Type} (events : List Event) (result : α) (run : Told α) : Prop :=
  Follows (fun told event => told ++ [event]) (fun _ => True) Affine.Answers events result run

@[simp]
theorem told_all (told events : List Event) : events.foldl (fun told event => told ++ [event]) told = told ++ events := by
  induction events generalizing told with
  | nil => simp
  | cons event events ih => rw [List.foldl_cons, ih, List.append_assoc, List.singleton_append]

namespace AccessMatcher

variable (matcher : AccessMatcher)

theorem draws_access (access : Access) (accesses fitting : List Access) (fits : Affine.arity access = matcher.size)
    (later : Draws (matcher.rejections accesses) (matcher.candidates accesses) (matcher.drawFrom fitting)) :
    Draws (matcher.rejections (access :: accesses)) (matcher.candidates (access :: accesses))
      (matcher.drawFrom (access :: fitting)) := by
  rw [drawFrom]
  cases judged : matcher.judge access with
  | error fault =>
      refine .stopped [] fault (fun answers => ?_) (by simp) fun _ => rfl
      obtain ⟨verdict, ended⟩ := matcher.judge_answers access answers
      cases judged.symm.trans ended
  | ok verdict =>
      have known : matcher.verdict? access = some verdict := by rw [verdict?, if_pos fits, judged]; rfl
      cases verdict with
      | candidate list =>
          rw [rejections, candidates, List.filterMap_cons_none (by rw [known]; rfl),
            List.filterMap_cons_some (by rw [candidate?, known]; rfl)]
          exact follows_map (list :: ·) later
      | rejected reason =>
          rw [rejections, candidates, List.filterMap_cons_some (by rw [known]; rfl),
            List.filterMap_cons_none (by rw [candidate?, known]; rfl)]
          have told : Draws [reason] () (Told.tell reason) := .ended (by simp) fun _ => rfl
          change Draws (reason :: matcher.rejections accesses) _ (do Told.tell reason; matcher.drawFrom fitting)
          exact follows_then told later

theorem draws_candidates (relation : Relation) :
    Draws (matcher.rejections relation.accesses) (matcher.candidates relation.accesses) (matcher.draw relation) := by
  rw [draw, AccessMatcher.accesses]
  generalize relation.accesses = accesses
  induction accesses with
  | nil => exact follows_pure []
  | cons access accesses ih =>
      by_cases fits : Affine.arity access = matcher.size
      · rw [List.filter_cons_of_pos (by simpa using fits)]
        exact matcher.draws_access access accesses _ fits ih
      · have passed : matcher.verdict? access = none := if_neg fits
        rw [List.filter_cons_of_neg (by simpa using fits), rejections, candidates, List.filterMap_cons_none (by rw [passed]; rfl),
          List.filterMap_cons_none (by rw [candidate?, passed]; rfl)]
        exact ih

theorem draw_ends (answers : Affine.Answers) (relation : Relation) (told : List Event) :
    matcher.draw relation told
      = .ok (matcher.candidates relation.accesses) (told ++ matcher.rejections relation.accesses) := by
  rw [follows_sure (matcher.draws_candidates relation) answers, told_all]

theorem drawn_candidates (relation : Relation) (told after : List Event) (lists : List ConstraintList)
    (drawn : matcher.draw relation told = .ok lists after) : lists = matcher.candidates relation.accesses :=
  (follows_ok (matcher.draws_candidates relation) told after lists drawn).1

theorem draw_last_ends (answers : Affine.Answers) (relation : Relation) (told : List Event) :
    matcher.drawLast relation told = .ok ((matcher.candidates relation.accesses).getLast?.getD .empty)
      (told ++ matcher.rejections relation.accesses) := by
  rw [drawLast, bind_of_ok _ _ _ _ _ (matcher.draw_ends answers relation told)]
  rfl

theorem drawn_last (relation : Relation) (told after : List Event) (list : ConstraintList)
    (drawn : matcher.drawLast relation told = .ok list after) :
    list = .empty ∨ list ∈ matcher.candidates relation.accesses := by
  obtain ⟨lists, between, began, ended⟩ := bind_ok _ _ _ _ _ drawn
  rw [← matcher.drawn_candidates relation told between lists began]
  cases ended
  cases last : lists.getLast? with
  | none => exact .inl rfl
  | some list => exact .inr (List.mem_of_getLast? last)

theorem candidate_bound (accesses : List Access) (list : ConstraintList) (among : list ∈ matcher.candidates accesses) :
    ∃ expressions : List Expression, expressions.length = matcher.labels.length
      ∧ list = .ofConstraints matcher.size ((matcher.labels.zip expressions).map constraintOf) := by
  obtain ⟨access, _, drawn⟩ := List.mem_filterMap.mp among
  obtain ⟨expressions, arity, yields, rfl⟩ := matcher.candidate_yields access list drawn
  exact ⟨expressions, yields.counted.trans arity, rfl⟩

theorem candidate_row (accesses : List Access) (list : ConstraintList) (among : list ∈ matcher.candidates accesses) :
    matcher.row list.members = .ok list.terms := by
  obtain ⟨expressions, length, rfl⟩ := matcher.candidate_bound accesses list among
  have size : (((matcher.labels.zip expressions).map constraintOf).map
      Operand.constraint).length = matcher.size := by
    simp [AccessMatcher.size, length]
  rw [AccessMatcher.row, terms_of_bindings _ _ _ length, ConstraintList.ofConstraints, if_pos size]
  exact row_terms_of_bindings matcher.labels expressions length

end AccessMatcher

section

variable (reader writer : AccessMatcher) (reads writes : List Access) (first second : ConstraintList)
  (read : first ∈ reader.candidates reads) (written : second ∈ writer.candidates writes)

include read in
theorem candidate_label (constraint : Constraint) (held : .constraint constraint ∈ first.members) :
    constraint.label ∈ reader.labels := by
  obtain ⟨expressions, _, rfl⟩ := reader.candidate_bound reads first read
  obtain ⟨_, among, same⟩ := List.mem_map.mp held
  cases same
  exact label_of_binding reader.labels expressions constraint among

include read written

theorem candidates_comparable (answers : Affine.Answers) : ∃ agreed, first.compare second = .ok agreed := by
  obtain ⟨expressions, _, rfl⟩ := reader.candidate_bound reads first read
  obtain ⟨others, _, rfl⟩ := writer.candidate_bound writes second written
  exact ⟨_, ConstraintList.compare_agreed _ _ _ _ (bindings_comparable answers _ _)⟩

-- What two candidates agree on are constraints with labels of the first matcher, and none if the second
-- matcher has none of these labels.
theorem compared_candidates (agreed : ConstraintList) (compared : first.compare second = .ok agreed) :
    ∃ constraints, agreed.constraints = .ok constraints ∧ (∀ constraint ∈ constraints, constraint.label ∈ reader.labels)
      ∧ (reader.sharesLabel writer = false → agreed.isEmpty = true) := by
  obtain same | ⟨entries, enumerated, some, rfl⟩ := ConstraintList.compare_enumerates first second agreed compared
  · rw [same]
    exact ⟨[], rfl, by simp, fun _ => rfl⟩
  · have shared : ∀ constraint ∈ entries.map Prod.snd,
        constraint.label ∈ reader.labels ∧ constraint.label ∈ writer.labels := by
      intro constraint among
      obtain ⟨⟨place, constraint⟩, entry, rfl⟩ := List.mem_map.mp among
      have chosen := (ConstraintList.mem_enumerated _ _ _ enumerated place constraint).mp entry
      obtain ⟨other, there, meets⟩ := chosen.backed
      refine ⟨candidate_label reader reads first read constraint (List.mem_of_getElem? chosen.here), ?_⟩
      rw [meets.label]
      exact candidate_label writer writes second written other there
    refine ⟨_, ConstraintList.constraints_of_constraints _, fun constraint among => (shared constraint among).1, ?_⟩
    intro disjoint
    rw [AccessMatcher.sharesLabel, List.any_eq_false] at disjoint
    obtain ⟨entry, among⟩ := List.exists_mem_of_ne_nil entries some
    obtain ⟨read, written⟩ := shared entry.2 (List.mem_map_of_mem among)
    exact absurd (by simpa using written) (disjoint entry.2.label read)

end

end ScheduleShape
