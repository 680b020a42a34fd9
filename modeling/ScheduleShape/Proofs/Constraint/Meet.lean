import ScheduleShape.Proofs.Finder.Contribution

set_option autoImplicit false

namespace ScheduleShape

section

variable [Affine]

theorem agreed_sublist (others constraints : List Constraint) (reported : List Label) :
    (agreed others reported constraints).Sublist constraints := by
  induction constraints generalizing reported with
  | nil => exact List.Sublist.slnil
  | cons constraint constraints ih =>
      rw [agreed]
      by_cases known : constraint.label ∈ reported
      · simpa only [if_pos known] using (ih reported).cons constraint
      · by_cases confirmed : others.any (·.confirms constraint) = true
        · simpa only [if_neg known, if_pos confirmed] using
            (ih (constraint.label :: reported)).cons_cons constraint
        · simpa only [if_neg known, if_neg confirmed] using (ih reported).cons constraint

namespace ConstraintList

inductive Coherent : ConstraintList → Prop where
  | empty : Coherent .empty
  | bound (arity : Nat) (bindings : List (Label × Expression)) (nonempty : bindings ≠ [])
      (consistent : ∀ label, AgreeThroughout bindings bindings label) :
      Coherent (.ofConstraints arity (bindings.map constraintOf))

structure IsMeet (first second meet : ConstraintList) : Prop where
  held : ∀ label expression, meet.Holds label expression ↔
    first.arity = second.arity ∧ first.Holds label expression ∧ second.Holds label expression
  arity : ∀ label expression, meet.Holds label expression → meet.arity = first.arity

theorem empty_holds (label : Label) (expression : Expression) :
    ¬ ConstraintList.empty.Holds label expression := by
  simp [Holds, empty]

theorem bindings_hold (arity : Int) (bindings : List (Label × Expression)) (label : Label)
    (expression : Expression) :
    (ofConstraints arity (bindings.map constraintOf)).Holds label expression ↔
      ∃ bound, (label, bound) ∈ bindings ∧ Affine.Same bound expression := by
  simp only [Holds, ofConstraints, List.mem_map, Operand.constraint.injEq, exists_eq_right]
  constructor
  · rintro ⟨constraint, bound, ⟨binding, among, rfl⟩, rfl, same, agree⟩
    cases same
    exact ⟨binding.2, among, agree⟩
  · rintro ⟨bound, among, agree⟩
    exact ⟨constraintOf (label, bound), bound, ⟨(label, bound), among, rfl⟩, rfl, rfl, agree⟩

theorem arity_of_unheld (equivalence : Equivalence Affine.Same) (list : ConstraintList) (coherent : list.Coherent)
    (unheld : ∀ label expression, ¬ list.Holds label expression) : list.arity = -1 := by
  cases coherent with
  | empty => rfl
  | bound arity bindings nonempty consistent =>
      obtain ⟨⟨label, expression⟩, among⟩ := List.exists_mem_of_ne_nil bindings nonempty
      have held := (bindings_hold arity bindings label expression).mpr
        ⟨expression, among, equivalence.refl expression⟩
      exact absurd held (unheld label expression)

theorem same_of_held (equivalence : Equivalence Affine.Same) (first second : ConstraintList) (coherent : first.Coherent)
    (coherent' : second.Coherent)
    (held : ∀ label expression, first.Holds label expression ↔ second.Holds label expression)
    (arity : ∀ label expression, first.Holds label expression → second.Holds label expression →
      first.arity = second.arity) : first.SameContent second where
  held := held
  arity := by
    by_cases some : ∃ label expression, first.Holds label expression
    · obtain ⟨label, expression, here⟩ := some
      exact arity label expression here ((held label expression).mp here)
    · have unheld : ∀ label expression, ¬ first.Holds label expression :=
        fun label expression here => some ⟨label, expression, here⟩
      have unheld' : ∀ label expression, ¬ second.Holds label expression :=
        fun label expression there => unheld label expression ((held label expression).mpr there)
      rw [arity_of_unheld equivalence first coherent unheld, arity_of_unheld equivalence second coherent' unheld']

section

variable (equivalence : Equivalence Affine.Same) (bindings others kept : List (Label × Expression))
  (consistent : ∀ label, AgreeThroughout bindings bindings label)
  (consistent' : ∀ label, AgreeThroughout others others label)
  (keeps : kept.map constraintOf
    = agreed (others.map constraintOf) [] (bindings.map constraintOf))
  (among : kept.Sublist bindings)

include equivalence consistent consistent' keeps among

theorem kept_iff_both (label : Label) (expression : Expression) :
    (∃ bound, (label, bound) ∈ kept ∧ Affine.Same bound expression) ↔
      (∃ bound, (label, bound) ∈ bindings ∧ Affine.Same bound expression)
        ∧ ∃ bound, (label, bound) ∈ others ∧ Affine.Same bound expression := by
  have met : (∃ bound, (label, bound) ∈ kept) ↔ MeetAt bindings others label := by
    rw [← reported_iff_meet, ← keeps]
    simp [constraintOf]
  constructor
  · rintro ⟨bound, here, agree⟩
    have meet := met.mp ⟨bound, here⟩
    obtain ⟨_, second, _, there, _⟩ := (meet_at_iff _ _ _).mp meet
    have throughout_ := agree_throughout_of_meet bindings others equivalence consistent consistent' label meet
    have same := (agree_throughout_iff _ _ _).mp throughout_ bound second (among.subset here) there
    exact ⟨⟨bound, among.subset here, agree⟩, second, there,
      equivalence.trans (equivalence.symm same) agree⟩
  · rintro ⟨⟨first, here, agree⟩, second, there, agree'⟩
    have same := equivalence.trans agree (equivalence.symm agree')
    obtain ⟨bound, held⟩ := met.mpr ((meet_at_iff _ _ _).mpr ⟨first, second, here, there, same⟩)
    have alike := (agree_throughout_iff _ _ _).mp (consistent label) bound first
      (among.subset held) here
    exact ⟨bound, held, equivalence.trans alike agree⟩

end

theorem meet_empty (first second : ConstraintList)
    (apart : first.arity = second.arity → ∀ label expression, first.Holds label expression →
      ¬ second.Holds label expression) : IsMeet first second .empty where
  held label expression := by
    have unheld := empty_holds label expression
    have nowhere : ¬ (first.arity = second.arity ∧ first.Holds label expression
        ∧ second.Holds label expression) :=
      fun both => apart both.1 label expression both.2.1 both.2.2
    exact ⟨fun held => absurd held unheld, fun both => absurd both nowhere⟩
  arity label expression held := absurd held (empty_holds label expression)

theorem compare_bound (answers : Affine.Answers) (equivalence : Equivalence Affine.Same)
    (arity arity' : Nat) (bindings others : List (Label × Expression))
    (consistent : ∀ label, AgreeThroughout bindings bindings label)
    (consistent' : ∀ label, AgreeThroughout others others label) :
    ∃ agreed, (ofConstraints arity (bindings.map constraintOf)).compare
        (ofConstraints arity' (others.map constraintOf)) = .ok agreed
      ∧ agreed.Coherent ∧ IsMeet (ofConstraints arity (bindings.map constraintOf))
        (ofConstraints arity' (others.map constraintOf)) agreed := by
  obtain ⟨kept, among, keeps⟩ := List.sublist_map_iff.mp
    (agreed_sublist (others.map constraintOf) (bindings.map constraintOf) [])
  have both := kept_iff_both equivalence bindings others kept consistent consistent' keeps.symm among
  rw [compare_agreed arity arity' _ _ (bindings_comparable answers _ _), keeps]
  by_cases nothing : arity ≠ arity' ∨ kept.map constraintOf = []
  · rw [if_pos nothing]
    refine ⟨.empty, rfl, .empty, meet_empty _ _ fun same label expression here there => ?_⟩
    have sameArity : arity = arity' := Int.ofNat.inj same
    have none : kept = [] := by simpa [sameArity] using nothing
    have held := (both label expression).mpr
      ⟨(bindings_hold _ _ _ _).mp here, (bindings_hold _ _ _ _).mp there⟩
    simp [none] at held
  · rw [if_neg nothing]
    rw [not_or, Classical.not_not] at nothing
    obtain ⟨sameArity, some⟩ := nothing
    subst sameArity
    have alike : ∀ label, AgreeThroughout kept kept label := by
      intro label
      rw [agree_throughout_iff]
      intro one two here there
      exact (agree_throughout_iff _ _ _).mp (consistent label) one two (among.subset here)
        (among.subset there)
    have nonempty : kept ≠ [] := fun none => some (by rw [none]; rfl)
    refine ⟨_, rfl, .bound arity kept nonempty alike, ⟨fun label expression => ?_, fun _ _ _ => rfl⟩⟩
    rw [bindings_hold, bindings_hold, bindings_hold, both]
    exact ⟨fun held => ⟨rfl, held⟩, And.right⟩

theorem compare_coherent (answers : Affine.Answers) (equivalence : Equivalence Affine.Same)
    (first second : ConstraintList) (coherent : first.Coherent)
    (coherent' : second.Coherent) :
    ∃ agreed, first.compare second = .ok agreed ∧ agreed.Coherent ∧ IsMeet first second agreed := by
  cases coherent with
  | empty =>
      refine ⟨.empty, rfl, .empty, meet_empty _ _ fun _ label expression held => ?_⟩
      exact absurd held (empty_holds label expression)
  | bound arity bindings nonempty consistent =>
      cases coherent' with
      | empty =>
          have compared : (ofConstraints arity (bindings.map constraintOf)).compare .empty
              = .ok .empty := by
            simp [compare, isEmpty, empty]
          exact ⟨.empty, compared, .empty, meet_empty _ _ fun _ label expression _ =>
            empty_holds label expression⟩
      | bound arity' others nonempty' consistent' =>
          exact compare_bound answers equivalence arity arity' bindings others consistent consistent'

theorem coherent_of_candidate (answers : Affine.Answers) (equivalence : Equivalence Affine.Same)
    (matcher : AccessMatcher) (accesses : List Access) (list : ConstraintList)
    (among : list ∈ matcher.candidates accesses) : list.Coherent := by
  obtain ⟨access, expressions, _, applies, rfl⟩ :=
    (matcher.mem_candidates_iff accesses answers equivalence list).mp among
  have length := matcher.length_of_applies access expressions applies
  apply Coherent.bound matcher.size _ _ applies.repeats
  intro none
  have short : (matcher.labels.zip expressions).length = 0 := by rw [none]; rfl
  rw [List.length_zip, length, Nat.min_self] at short
  exact matcher.nonempty (List.eq_nil_of_length_eq_zero short)

theorem coherent_of_derived (answers : Affine.Answers) (equivalence : Equivalence Affine.Same) (list : ConstraintList)
    (derived : list.Derived) : list.Coherent := by
  induction derived with
  | empty => exact .empty
  | candidate matcher relation told after lists drawn list among =>
      rw [matcher.drawn_candidates relation told after lists drawn] at among
      exact coherent_of_candidate answers equivalence matcher relation.accesses list among
  | last matcher relation told after list drawn =>
      obtain rfl | among := matcher.drawn_last relation told after list drawn
      · exact .empty
      · exact coherent_of_candidate answers equivalence matcher relation.accesses list among
  | comparison first second agreed one two compared ih ih' =>
      obtain ⟨result, ended, coherent, _⟩ := compare_coherent answers equivalence first second ih ih'
      rw [compared] at ended
      cases ended
      exact coherent

theorem meet_self (list : ConstraintList) : IsMeet list list list where
  held label expression := by simp
  arity _ _ _ := rfl

theorem meet_turned (first second meet : ConstraintList) (here : IsMeet first second meet) :
    IsMeet second first meet where
  held label expression := by
    rw [here.held, eq_comm, and_comm (a := first.Holds label expression)]
  arity label expression held := by
    have same := ((here.held label expression).mp held).1
    rw [here.arity label expression held, same]

theorem meet_unique (equivalence : Equivalence Affine.Same) (first second one other : ConstraintList) (coherent : one.Coherent)
    (coherent' : other.Coherent) (meet : IsMeet first second one)
    (meet' : IsMeet first second other) : one.SameContent other := by
  apply same_of_held equivalence one other coherent coherent'
  · intro label expression
    rw [meet.held, meet'.held]
  · intro label expression held held'
    rw [meet.arity label expression held, meet'.arity label expression held']

theorem held_by_all (first second third front left : ConstraintList)
    (meet : IsMeet first second front) (meet' : IsMeet front third left) (label : Label)
    (expression : Expression) :
    left.Holds label expression ↔ first.arity = second.arity ∧ second.arity = third.arity
      ∧ first.Holds label expression ∧ second.Holds label expression
      ∧ third.Holds label expression := by
  rw [meet'.held]
  constructor
  · rintro ⟨arity, held, last⟩
    obtain ⟨same, here, there⟩ := (meet.held label expression).mp held
    have front := meet.arity label expression held
    exact ⟨same, same.symm.trans (front.symm.trans arity), here, there, last⟩
  · rintro ⟨same, further, here, there, last⟩
    have held := (meet.held label expression).mpr ⟨same, here, there⟩
    have front := meet.arity label expression held
    exact ⟨front.trans (same.trans further), held, last⟩

theorem meet_associates (equivalence : Equivalence Affine.Same) (first second third front back left right : ConstraintList)
    (coherent : left.Coherent) (coherent' : right.Coherent) (meet : IsMeet first second front)
    (ofFront : IsMeet front third left) (meet' : IsMeet second third back)
    (ofBack : IsMeet first back right) : left.SameContent right := by
  have turned := meet_turned first back right ofBack
  apply same_of_held equivalence left right coherent coherent'
  · intro label expression
    rw [held_by_all first second third front left meet ofFront,
      held_by_all second third first back right meet' turned]
    constructor
    · rintro ⟨same, further, here, there, last⟩
      exact ⟨further, (same.trans further).symm, there, last, here⟩
    · rintro ⟨further, around, there, last, here⟩
      exact ⟨(further.trans around).symm, further, here, there, last⟩
  · intro label expression held held'
    have inFront := ((ofFront.held label expression).mp held).2.1
    rw [ofFront.arity label expression held, meet.arity label expression inFront,
      ofBack.arity label expression held']

/-- For lists that come from accesses, directly or by comparison, comparison always has a result and
is idempotent, commutative and associative up to the content of lists; the empty list is absorbing. -/
theorem compare_is_meet (answers : Affine.Answers) (equivalence : Equivalence Affine.Same)
    (first second third : ConstraintList) (one : first.Derived) (two : second.Derived) (three : third.Derived) :
    (∃ self, first.compare first = .ok self ∧ self.SameContent first)
    ∧ (∃ agreed turned, first.compare second = .ok agreed ∧ second.compare first = .ok turned
      ∧ agreed.SameContent turned)
    ∧ (∃ front left back right, first.compare second = .ok front ∧ front.compare third = .ok left
      ∧ second.compare third = .ok back ∧ first.compare back = .ok right ∧ left.SameContent right)
    ∧ first.compare .empty = .ok .empty ∧ ConstraintList.empty.compare first = .ok .empty := by
  have firstCoherent := coherent_of_derived answers equivalence first one
  have secondCoherent := coherent_of_derived answers equivalence second two
  have thirdCoherent := coherent_of_derived answers equivalence third three
  obtain ⟨self, selfCompared, selfCoherent, selfMeet⟩ :=
    compare_coherent answers equivalence first first firstCoherent firstCoherent
  obtain ⟨front, frontCompared, frontCoherent, frontMeet⟩ :=
    compare_coherent answers equivalence first second firstCoherent secondCoherent
  obtain ⟨turned, turnedCompared, turnedCoherent, turnedMeet⟩ :=
    compare_coherent answers equivalence second first secondCoherent firstCoherent
  obtain ⟨back, backCompared, backCoherent, backMeet⟩ :=
    compare_coherent answers equivalence second third secondCoherent thirdCoherent
  obtain ⟨left, leftCompared, leftCoherent, leftMeet⟩ :=
    compare_coherent answers equivalence front third frontCoherent thirdCoherent
  obtain ⟨right, rightCompared, rightCoherent, rightMeet⟩ :=
    compare_coherent answers equivalence first back firstCoherent backCoherent
  refine ⟨⟨self, selfCompared, ?_⟩, ⟨front, turned, frontCompared, turnedCompared, ?_⟩,
    ⟨front, left, back, right, frontCompared, leftCompared, backCompared, rightCompared, ?_⟩, ?_, rfl⟩
  · exact meet_unique equivalence first first self first selfCoherent firstCoherent selfMeet (meet_self first)
  · exact meet_unique equivalence first second front turned frontCoherent turnedCoherent frontMeet
      (meet_turned second first turned turnedMeet)
  · exact meet_associates equivalence first second third front back left right leftCoherent rightCoherent
      frontMeet leftMeet backMeet rightMeet
  · simp [compare, isEmpty, empty]

end ConstraintList

end

namespace ConstraintList

def lastDrawn (matcher : AccessMatcher) (held : BoxUnion) : ConstraintList :=
  match matcher.drawLast (.union held) [] with
  | .ok list _ => list
  | .error _ _ => .empty

theorem last_drawn_derived (matcher : AccessMatcher) (held : BoxUnion) : (lastDrawn matcher held).Derived := by
  rw [lastDrawn]
  cases drawn : matcher.drawLast (.union held) [] with
  | ok list after => exact .last matcher (.union held) [] after list drawn
  | error fault after => exact .empty

def readLast : ConstraintList := lastDrawn outerAlike twoReads

def writtenLast : ConstraintList := lastDrawn outerAlike twoWrites

def frontLast : ConstraintList := lastDrawn frontAlike twoReads

theorem compare_is_meet_last :
    Affine.Answers ∧ Equivalence Affine.Same ∧ readLast.Derived ∧ writtenLast.Derived ∧ frontLast.Derived
      ∧ (∃ self, readLast.compare readLast = .ok self ∧ self.SameContent readLast)
      ∧ (∃ agreed turned, readLast.compare writtenLast = .ok agreed
        ∧ writtenLast.compare readLast = .ok turned ∧ agreed.SameContent turned)
      ∧ ∃ front left back right, readLast.compare writtenLast = .ok front
        ∧ front.compare frontLast = .ok left ∧ writtenLast.compare frontLast = .ok back
        ∧ readLast.compare back = .ok right ∧ left.SameContent right
        ∧ left.constraints.map (·.map Constraint.label) = .ok [letterA] := by
  have one : readLast.Derived := last_drawn_derived _ _
  have two : writtenLast.Derived := last_drawn_derived _ _
  have three : frontLast.Derived := last_drawn_derived _ _
  obtain ⟨self, turned, ⟨front, left, back, right, compared, further, compared', further', same⟩, _⟩ :=
    compare_is_meet boxes_answers boxes_equivalence readLast writtenLast frontLast one two three
  refine ⟨boxes_answers, boxes_equivalence, one, two, three, self, turned, front, left, back, right, compared,
    further, compared', further', same, ?_⟩
  cases compared
  cases further
  rfl

end ConstraintList

end ScheduleShape
