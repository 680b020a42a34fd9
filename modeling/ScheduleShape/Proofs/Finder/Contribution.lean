import ScheduleShape.Proofs.Finder.Search

set_option autoImplicit false

namespace ScheduleShape

theorem flat_map_drawn {α β γ : Type} (draw : α → Option β) (found : β → List γ) (items : List α) :
    (items.filterMap draw).flatMap found = items.flatMap fun item => (draw item).toList.flatMap found := by
  induction items with
  | nil => rfl
  | cons item items ih =>
      rw [List.filterMap_cons, List.flatMap_cons, ← ih]
      cases draw item <;> simp

section

variable [Affine]

namespace Finder

def contribution (reader writer : AccessMatcher) (read written : Access) : Option Finding := do
  let first ← reader.candidate? read
  let second ← writer.candidate? written
  (findingsOf reader writer first second).head?

def contributions (finder : Finder) : List Finding :=
  finder.readers.flatMap fun reader =>
    finder.writers.flatMap fun writer =>
      finder.reads.accesses.flatMap fun read =>
        finder.writes.accesses.flatMap fun written => (contribution reader writer read written).toList

structure Reported (reader writer : AccessMatcher) (expressions others : List Expression)
    (labels : List Label) : Prop where
  once : labels.Nodup
  inOrder : labels.Pairwise fun one two => reader.labels.idxOf one < reader.labels.idxOf two
  members : ∀ label, label ∈ labels ↔ label ∈ reader.labels ∧ label ∈ writer.labels
    ∧ AgreeThroughout (reader.labels.zip expressions) (writer.labels.zip others) label
  apart : ∀ label ∈ reader.labels, label ∈ writer.labels → label ∉ labels →
    DifferThroughout (reader.labels.zip expressions) (writer.labels.zip others) label

end Finder

section

variable (bindings others : List (Label × Expression))

theorem confirmed_binding_iff (binding : Label × Expression) :
    (others.map constraintOf).any (·.confirms (constraintOf binding)) = true ↔
      ∃ second, (binding.1, second) ∈ others ∧ Affine.Same binding.2 second := by
  have each : ∀ other : Label × Expression, (constraintOf other).confirms (constraintOf binding) = true ↔
      binding.1 = other.1 ∧ Affine.Same binding.2 other.2 := by
    intro other
    have asked : (constraintOf binding).agreesWith (.constraint (constraintOf other))
        = if binding.1 = other.1 then Affine.plainEqual binding.2 other.2 else .ok false := rfl
    rw [Constraint.confirms, asked, Affine.Same]
    by_cases same : binding.1 = other.1
    · rw [if_pos same, and_iff_right same]
      cases Affine.plainEqual binding.2 other.2 <;> simp
    · simp [same]
  rw [List.any_map, List.any_eq_true]
  constructor
  · rintro ⟨⟨label, second⟩, among, confirms⟩
    obtain ⟨rfl, agree⟩ := (each _).mp confirms
    exact ⟨second, among, agree⟩
  · rintro ⟨second, among, agree⟩
    exact ⟨(binding.1, second), among, (each _).mpr ⟨rfl, agree⟩⟩

theorem reported_iff_meet (label : Label) :
    label ∈ (agreed (others.map constraintOf) [] (bindings.map constraintOf)).map Constraint.label ↔
      MeetAt bindings others label := by
  rw [mem_agreed_labels, meet_at_iff]
  constructor
  · rintro ⟨_, constraint, among, rfl, confirmed⟩
    obtain ⟨⟨label, first⟩, here, rfl⟩ := List.mem_map.mp among
    obtain ⟨second, there, agree⟩ := (confirmed_binding_iff others _).mp confirmed
    exact ⟨first, second, here, there, agree⟩
  · rintro ⟨first, second, here, there, agree⟩
    exact ⟨by simp, constraintOf (label, first), List.mem_map_of_mem here, rfl,
      (confirmed_binding_iff others _).mpr ⟨second, there, agree⟩⟩

theorem agreed_nonempty_iff :
    agreed (others.map constraintOf) [] (bindings.map constraintOf) ≠ [] ↔
      ∃ label, MeetAt bindings others label := by
  simp only [← reported_iff_meet]
  cases agreed (others.map constraintOf) [] (bindings.map constraintOf) with
  | nil => simp
  | cons constraint constraints => simp

section

variable (equivalence : Equivalence Affine.Same) (consistent : ∀ label, AgreeThroughout bindings bindings label)

include equivalence consistent

theorem reported_in_order :
    ((agreed (others.map constraintOf) [] (bindings.map constraintOf)).map Constraint.label).Pairwise
      fun one two => (bindings.map Prod.fst).idxOf one < (bindings.map Prod.fst).idxOf two := by
  have labels : (bindings.map constraintOf).map Constraint.label = bindings.map Prod.fst := by
    rw [List.map_map]
    rfl
  rw [← labels]
  apply agreed_labels_in_order
  intro one here two there same
  obtain ⟨⟨label, first⟩, bound, rfl⟩ := List.mem_map.mp here
  obtain ⟨⟨label', second⟩, bound', rfl⟩ := List.mem_map.mp there
  obtain rfl : label = label' := same
  have alike := (agree_throughout_iff _ _ _).mp (consistent label)
  rw [Bool.eq_iff_iff, confirmed_binding_iff, confirmed_binding_iff]
  constructor
  · rintro ⟨third, among, agree⟩
    exact ⟨third, among, equivalence.trans (alike second first bound' bound) agree⟩
  · rintro ⟨third, among, agree⟩
    exact ⟨third, among, equivalence.trans (alike first second bound bound') agree⟩

-- What agrees at one pair of positions agrees at all: through the other positions of the label.
theorem agree_throughout_of_meet (consistent' : ∀ label, AgreeThroughout others others label)
    (label : Label) (meet : MeetAt bindings others label) :
    AgreeThroughout bindings others label := by
  obtain ⟨first, second, here, there, agree⟩ := (meet_at_iff _ _ _).mp meet
  rw [agree_throughout_iff]
  intro one two among among'
  have toFirst := (agree_throughout_iff _ _ _).mp (consistent label) one first among here
  have fromSecond := (agree_throughout_iff _ _ _).mp (consistent' label) second two there among'
  exact equivalence.trans toFirst (equivalence.trans agree fromSecond)

end

end

namespace Finder

theorem findings_at_most_one (reader writer : AccessMatcher) (first second : ConstraintList) :
    (findingsOf reader writer first second).head?.toList = findingsOf reader writer first second := by
  rw [findingsOf]
  cases first.compare second with
  | error fault => rfl
  | ok agreed =>
      dsimp only
      cases agreed.isEmpty <;> rfl

theorem contributions_are_nested (finder : Finder) : finder.contributions = finder.nested := by
  have ofRead : ∀ (reader writer : AccessMatcher) (read : Access),
      (finder.writes.accesses.flatMap fun written => (contribution reader writer read written).toList) =
        (reader.candidate? read).toList.flatMap fun first =>
          (finder.candidatesOn .writes writer).flatMap fun second => findingsOf reader writer first second := by
    intro reader writer read
    simp only [contribution, candidatesOn, AccessMatcher.candidates, Side.choose, flat_map_drawn]
    cases reader.candidate? read with
    | none => simp
    | some first =>
        simp only [Option.toList_some, List.flatMap_singleton]
        apply congrArg (List.flatMap · finder.writes.accesses)
        funext written
        cases writer.candidate? written with
        | none => rfl
        | some second => simpa using findings_at_most_one reader writer first second
  simp only [contributions, nested, ofRead]
  simp only [candidatesOn, AccessMatcher.candidates, Side.choose, flat_map_drawn]

theorem mem_labels_iff (labels : List Label) (expressions : List Expression)
    (length : expressions.length = labels.length) (label : Label) :
    label ∈ labels ↔ ∃ expression, (label, expression) ∈ labels.zip expressions := by
  have first : (labels.zip expressions).map Prod.fst = labels :=
    List.map_fst_zip (Nat.le_of_eq length.symm)
  constructor
  · intro among
    rw [← first] at among
    obtain ⟨⟨_, expression⟩, bound, rfl⟩ := List.mem_map.mp among
    exact ⟨expression, bound⟩
  · rintro ⟨expression, bound⟩
    exact (List.of_mem_zip bound).1

section

variable (answers : Affine.Answers) (equivalence : Equivalence Affine.Same) (reader writer : AccessMatcher)
  (read written : Access)

include answers equivalence

theorem contribution_of_applies (expressions others : List Expression) (applies : reader.Applies read expressions)
    (applies' : writer.Applies written others) :
    contribution reader writer read written =
      if reader.size ≠ writer.size ∨ agreed ((writer.labels.zip others).map constraintOf) []
          ((reader.labels.zip expressions).map constraintOf) = [] then none
      else some ⟨reader, writer, .ofConstraints reader.size
        (agreed ((writer.labels.zip others).map constraintOf) []
          ((reader.labels.zip expressions).map constraintOf))⟩ := by
  have first := (reader.candidate_iff read answers equivalence _).mpr ⟨expressions, applies, rfl⟩
  have second := (writer.candidate_iff written answers equivalence _).mpr ⟨others, applies', rfl⟩
  rw [contribution, first, second]
  change (findingsOf reader writer _ _).head? = _
  rw [findingsOf, ConstraintList.compare_agreed _ _ _ _ (bindings_comparable answers _ _)]
  by_cases nothing : reader.size ≠ writer.size ∨
      agreed ((writer.labels.zip others).map constraintOf) []
        ((reader.labels.zip expressions).map constraintOf) = []
  · rw [if_pos nothing, if_pos nothing]
    rfl
  · rw [if_neg nothing, if_neg nothing]
    simp [ConstraintList.not_empty_of_constraints]

theorem applies_of_contribution (finding : Finding)
    (contributed : contribution reader writer read written = some finding) :
    ∃ expressions others, reader.Applies read expressions ∧ writer.Applies written others := by
  obtain ⟨first, drawn, further⟩ := Option.bind_eq_some_iff.mp contributed
  obtain ⟨second, drawn', _⟩ := Option.bind_eq_some_iff.mp further
  obtain ⟨expressions, applies, _⟩ := (reader.candidate_iff read answers equivalence first).mp drawn
  obtain ⟨others, applies', _⟩ := (writer.candidate_iff written answers equivalence second).mp drawn'
  exact ⟨expressions, others, applies, applies'⟩

theorem contributed_iff : (contribution reader writer read written).isSome ↔ reader.size = writer.size
      ∧ ∃ expressions others, reader.Applies read expressions ∧ writer.Applies written others
        ∧ ∃ label, MeetAt (reader.labels.zip expressions) (writer.labels.zip others) label := by
  constructor
  · intro some
    obtain ⟨finding, contributed⟩ := Option.isSome_iff_exists.mp some
    obtain ⟨expressions, others, applies, applies'⟩ :=
      applies_of_contribution answers equivalence reader writer read written finding contributed
    rw [contribution_of_applies answers equivalence reader writer read written expressions others applies applies']
      at some
    by_cases nothing : reader.size ≠ writer.size ∨
        agreed ((writer.labels.zip others).map constraintOf) []
          ((reader.labels.zip expressions).map constraintOf) = []
    · rw [if_pos nothing] at some
      cases some
    · rw [not_or, Classical.not_not] at nothing
      exact ⟨nothing.1, expressions, others, applies, applies', (agreed_nonempty_iff _ _).mp nothing.2⟩
  · rintro ⟨sizes, expressions, others, applies, applies', meet⟩
    have agreeing := (agreed_nonempty_iff _ _).mpr meet
    rw [contribution_of_applies answers equivalence reader writer read written expressions others applies applies',
      if_neg (by simp [sizes, agreeing])]
    rfl

theorem reported_of_applies (expressions others : List Expression) (applies : reader.Applies read expressions)
    (applies' : writer.Applies written others) :
    Reported reader writer expressions others
      ((agreed ((writer.labels.zip others).map constraintOf) []
        ((reader.labels.zip expressions).map constraintOf)).map Constraint.label) := by
  have length := reader.length_of_applies read expressions applies
  have length' := writer.length_of_applies written others applies'
  have ordered := reported_in_order (reader.labels.zip expressions) (writer.labels.zip others) equivalence
    applies.repeats
  rw [List.map_fst_zip (Nat.le_of_eq length.symm)] at ordered
  refine ⟨ordered.imp fun less same => ?_, ordered, fun label => ?_, fun label _ _ absent => ?_⟩
  · rw [same] at less
    exact Nat.lt_irrefl _ less
  · rw [reported_iff_meet]
    constructor
    · intro meet
      obtain ⟨first, second, here, there, _⟩ := (meet_at_iff _ _ _).mp meet
      exact ⟨(List.of_mem_zip here).1, (List.of_mem_zip there).1,
        agree_throughout_of_meet _ _ equivalence applies.repeats applies'.repeats label meet⟩
    · rintro ⟨here, there, agree⟩
      obtain ⟨first, bound⟩ := (mem_labels_iff _ _ length label).mp here
      obtain ⟨second, bound'⟩ := (mem_labels_iff _ _ length' label).mp there
      exact (meet_at_iff _ _ _).mpr
        ⟨first, second, bound, bound', (agree_throughout_iff _ _ _).mp agree first second bound bound'⟩
  · rw [reported_iff_meet] at absent
    exact (differ_throughout_iff _ _ _ answers).mpr absent

end

/-- The findings of a finder for two relations are what the pairs of accesses contribute. A pair
contributes one just when the matchers have as many labels, apply to their accesses, and give equal
expressions to some positions of one label. Reported are, once each and in the order of their first
positions, the shared labels all whose positions agree; under the others all positions differ. -/
theorem find_reports_agreeing_labels (answers : Affine.Answers) (equivalence : Equivalence Affine.Same)
    (finder : Finder) (reads writes : Relation) (ledger : Ledger)
    (reading : finder.reads = .relation reads) (writing : finder.writes = .relation writes) :
    (∃ progress, finder.find ledger = .ok finder.contributions progress)
    ∧ ∀ reader writer read written,
      ((contribution reader writer read written).isSome ↔ reader.size = writer.size
        ∧ ∃ expressions others, reader.Applies read expressions ∧ writer.Applies written others
          ∧ ∃ label, MeetAt (reader.labels.zip expressions) (writer.labels.zip others) label)
      ∧ ∀ finding, contribution reader writer read written = some finding →
        finding.reader = reader ∧ finding.writer = writer
          ∧ ∃ expressions others constraints, reader.Applies read expressions
            ∧ writer.Applies written others ∧ finding.agreed.constraints = .ok constraints
            ∧ Reported reader writer expressions others (constraints.map Constraint.label) := by
  constructor
  · rw [contributions_are_nested]
    exact ⟨_, finder.find_ends ledger answers (finder.readable_of_relations reads writes reading writing)⟩
  · intro reader writer read written
    refine ⟨contributed_iff answers equivalence reader writer read written, fun finding contributed => ?_⟩
    obtain ⟨expressions, others, applies, applies'⟩ :=
      applies_of_contribution answers equivalence reader writer read written finding contributed
    rw [contribution_of_applies answers equivalence reader writer read written expressions others applies applies']
      at contributed
    split at contributed
    · cases contributed
    · cases contributed
      exact ⟨rfl, rfl, expressions, others, _, applies, applies',
        ConstraintList.constraints_of_constraints _,
        reported_of_applies answers equivalence reader writer read written expressions others applies applies'⟩

end Finder

end

namespace Finder

theorem find_reports_agreeing_labels_alike :
    Affine.Answers ∧ Equivalence Affine.Same ∧ alikeFinder.reads = .relation (.union twoReads)
      ∧ alikeFinder.writes = .relation (.union twoWrites)
      ∧ (∃ progress, alikeFinder.find .blank = .ok alikeFinder.contributions progress)
      ∧ ∃ finding expressions others constraints,
        contribution outerAlike frontAlike (touching "A" [[1, 0], [0, 1], [1, 0]])
            (touching "C" [[1, 0], [1, 0], [0, 0]]) = some finding
          ∧ finding.agreed.constraints = .ok constraints
          ∧ constraints.map Constraint.label = [letterA]
          ∧ Reported outerAlike frontAlike expressions others (constraints.map Constraint.label) := by
  obtain ⟨found, each⟩ := find_reports_agreeing_labels boxes_answers boxes_equivalence alikeFinder (.union twoReads)
    (.union twoWrites) .blank rfl rfl
  obtain ⟨_, meaning⟩ := each outerAlike frontAlike (touching "A" [[1, 0], [0, 1], [1, 0]])
    (touching "C" [[1, 0], [1, 0], [0, 0]])
  obtain ⟨_, _, expressions, others, constraints, _, _, held, reported⟩ := meaning _ rfl
  cases held
  exact ⟨boxes_answers, boxes_equivalence, rfl, rfl, found, _, expressions, others, _, rfl, rfl, rfl, reported⟩

end Finder

end ScheduleShape
