import Mathlib.Data.Nat.Find
import ScheduleShape.Proofs.Affine.Boxes
import ScheduleShape.Proofs.Constraint.Agreement

set_option autoImplicit false

namespace ScheduleShape

section

variable [Affine]

theorem agrees_with_ok (constraint : Constraint) (member : Operand) (answer : Bool)
    (ended : constraint.agreesWith member = .ok answer) :
    ∃ other, member = .constraint other ∧ (answer = true ↔ constraint.Meets other) := by
  cases member with
  | constraint other =>
      refine ⟨other, rfl, ?_⟩
      rw [Constraint.agreesWith] at ended
      by_cases same : constraint.label = other.label
      · rw [if_pos same] at ended
        refine ⟨fun yes => ⟨same, yes ▸ ended⟩, fun meets => ?_⟩
        exact Except.ok.inj (ended.symm.trans meets.term)
      · rw [if_neg same] at ended
        cases ended
        exact ⟨fun no => absurd no Bool.false_ne_true, fun meets => absurd meets.label same⟩
  | _ => cases ended

theorem confirmed_by_iff (constraint : Constraint) (members : List Operand) (answer : Bool)
    (ended : constraint.confirmedBy members = .ok answer) :
    answer = true ↔ Backs members constraint := by
  induction members generalizing answer with
  | nil =>
      cases ended
      simp [Backs]
  | cons member members ih =>
      obtain ⟨here, asked, further⟩ := (both_ok_iff _ _ _).mp ended
      obtain ⟨other, rfl, meets⟩ := agrees_with_ok constraint member here asked
      have either : Backs (.constraint other :: members) constraint ↔
          constraint.Meets other ∨ Backs members constraint := by
        simp only [Backs, List.mem_cons, Operand.constraint.injEq, or_and_right, exists_or, exists_eq_left]
      rw [either, ← meets]
      cases here with
      | true =>
          cases further
          simp
      | false => simpa using ih answer further

section

variable (others rest : List Operand) (first : Constraint)

theorem first_backed_here_iff (constraint : Constraint) :
    FirstBacked (.constraint first :: rest) others 0 constraint ↔
      constraint = first ∧ Backs others first := by
  constructor
  · rintro ⟨here, backed, _⟩
    obtain rfl : first = constraint := by simpa using here
    exact ⟨rfl, backed⟩
  · rintro ⟨rfl, backed⟩
    exact ⟨rfl, backed, fun earlier before => absurd before (Nat.not_lt_zero earlier)⟩

theorem first_backed_later_iff (place : Nat) (constraint : Constraint) :
    FirstBacked (.constraint first :: rest) others (place + 1) constraint ↔
      FirstBacked rest others place constraint
        ∧ (first.label = constraint.label → ¬ Backs others first) := by
  constructor
  · rintro ⟨here, backed, earliest⟩
    refine ⟨⟨by simpa using here, backed, fun earlier before other held => ?_⟩, ?_⟩
    · exact earliest (earlier + 1) (by omega) other (by simpa using held)
    · exact earliest 0 (by omega) first rfl
  · rintro ⟨⟨here, backed, earliest⟩, unbacked⟩
    refine ⟨by simpa using here, backed, fun earlier before other held => ?_⟩
    cases earlier with
    | zero =>
        obtain rfl : first = other := by simpa using held
        exact unbacked
    | succ earlier => exact earliest earlier (by omega) other (by simpa using held)

end

def oneOn (entries : List (Nat × Constraint)) : List (Nat × Constraint) :=
  entries.map fun entry => (entry.1 + 1, entry.2)

theorem zero_not_mem_one_on (entries : List (Nat × Constraint)) (constraint : Constraint) :
    (0, constraint) ∉ oneOn entries := by
  simp [oneOn]

theorem mem_one_on (entries : List (Nat × Constraint)) (place : Nat) (constraint : Constraint) :
    (place + 1, constraint) ∈ oneOn entries ↔ (place, constraint) ∈ entries := by
  simp [oneOn]

structure Enumerates (others : List Operand) (reported : List Label) (members : List Operand)
    (entries : List (Nat × Constraint)) : Prop where
  ordered : (entries.map Prod.fst).Pairwise (· < ·)
  chosen : ∀ place constraint, (place, constraint) ∈ entries ↔
    FirstBacked members others place constraint ∧ constraint.label ∉ reported

theorem one_on_ordered (entries : List (Nat × Constraint))
    (ordered : (entries.map Prod.fst).Pairwise (· < ·)) :
    ((oneOn entries).map Prod.fst).Pairwise (· < ·) := by
  rw [List.pairwise_map] at ordered ⊢
  exact List.pairwise_map.mpr (ordered.imp fun less => Nat.add_lt_add_right less 1)

section

variable (others rest : List Operand) (reported : List Label) (first : Constraint)
  (entries : List (Nat × Constraint))

theorem enumerates_passed (passed : first.label ∈ reported ∨ ¬ Backs others first)
    (enumerated : Enumerates others reported rest entries) :
    Enumerates others reported (.constraint first :: rest) (oneOn entries) where
  ordered := one_on_ordered entries enumerated.ordered
  chosen place constraint := by
    cases place with
    | zero =>
        rw [first_backed_here_iff]
        refine iff_of_false (zero_not_mem_one_on entries constraint) ?_
        rintro ⟨⟨rfl, backed⟩, fresh⟩
        exact passed.elim fresh (fun unbacked => unbacked backed)
    | succ place =>
        rw [mem_one_on, enumerated.chosen, first_backed_later_iff, and_right_comm]
        refine (and_iff_left_of_imp fun fresh same => ?_).symm
        exact passed.resolve_left (same ▸ fresh.2)

theorem enumerates_kept (fresh : first.label ∉ reported) (backed : Backs others first)
    (enumerated : Enumerates others (first.label :: reported) rest entries) :
    Enumerates others reported (.constraint first :: rest) ((0, first) :: oneOn entries) where
  ordered := by
    refine List.pairwise_cons.mpr ⟨fun place among => ?_, one_on_ordered entries enumerated.ordered⟩
    obtain ⟨⟨_ | place, constraint⟩, listed, rfl⟩ := List.mem_map.mp among
    · exact absurd listed (zero_not_mem_one_on entries constraint)
    · exact Nat.succ_pos place
  chosen place constraint := by
    rw [List.mem_cons]
    cases place with
    | zero =>
        rw [first_backed_here_iff]
        constructor
        · rintro (same | listed)
          · cases same
            exact ⟨⟨rfl, backed⟩, fresh⟩
          · exact absurd listed (zero_not_mem_one_on entries constraint)
        · rintro ⟨⟨rfl, _⟩, _⟩
          exact .inl rfl
    | succ place =>
        have different : (place + 1, constraint) ≠ (0, first) := by simp
        have reportedNow : constraint.label ∉ first.label :: reported ↔
            (first.label = constraint.label → ¬ Backs others first) ∧ constraint.label ∉ reported := by
          simp [backed, eq_comm]
        rw [or_iff_right different, mem_one_on, enumerated.chosen, first_backed_later_iff, reportedNow,
          and_assoc]

end

theorem confirmed_enumerates (others : List Operand) (reported : List Label) (members : List Operand)
    (kept : List Constraint) (ended : confirmed others reported members = .ok kept) :
    ∃ entries, kept = entries.map Prod.snd ∧ Enumerates others reported members entries := by
  induction members generalizing reported kept with
  | nil =>
      cases ended
      refine ⟨[], rfl, .nil, fun place constraint => iff_of_false List.not_mem_nil ?_⟩
      rintro ⟨backed, _⟩
      cases backed.here
  | cons member rest ih =>
      cases member with
      | constraint first =>
          have one_on_kept : ∀ entries, (oneOn entries).map Prod.snd = entries.map Prod.snd := by
            simp [oneOn]
          rw [confirmed] at ended
          by_cases known : first.label ∈ reported
          · rw [if_pos known] at ended
            obtain ⟨entries, rfl, enumerated⟩ := ih reported kept ended
            exact ⟨oneOn entries, (one_on_kept entries).symm,
              enumerates_passed others rest reported first entries (.inl known) enumerated⟩
          · rw [if_neg known] at ended
            obtain ⟨answer, asked, further⟩ := (both_ok_iff _ _ _).mp ended
            have backed := confirmed_by_iff first others answer asked
            cases answer with
            | true =>
                obtain ⟨later, found, last⟩ := (both_ok_iff _ _ _).mp further
                cases last
                obtain ⟨entries, rfl, enumerated⟩ := ih (first.label :: reported) later found
                exact ⟨(0, first) :: oneOn entries, by rw [List.map_cons, one_on_kept],
                  enumerates_kept others rest reported first entries known (backed.mp rfl) enumerated⟩
            | false =>
                obtain ⟨entries, rfl, enumerated⟩ := ih reported kept further
                have unbacked : ¬ Backs others first := fun yes => Bool.false_ne_true (backed.mpr yes)
                exact ⟨oneOn entries, (one_on_kept entries).symm,
                  enumerates_passed others rest reported first entries (.inr unbacked) enumerated⟩
      | _ => cases ended

namespace ConstraintList

section

variable (first second : ConstraintList)

theorem expressed_constraints (list : ConstraintList) (expressed : list.Expressed) :
    ∃ constraints : List Constraint, list.members = constraints.map .constraint
      ∧ ∀ constraint ∈ constraints, ∃ expression, constraint.term = .expression expression := by
  obtain ⟨_, members, _⟩ := list
  induction members with
  | nil => exact ⟨[], rfl, by simp⟩
  | cons member members ih =>
      obtain ⟨constraints, same, terms⟩ := ih fun other among => expressed other (List.mem_cons_of_mem _ among)
      obtain ⟨label, expression, mark, rfl⟩ := expressed member List.mem_cons_self
      refine ⟨⟨label, .expression expression, mark⟩ :: constraints, ?_, ?_⟩
      · simpa using same
      · exact List.forall_mem_cons.mpr ⟨⟨expression, rfl⟩, terms⟩

theorem compare_expressed (answers : Affine.Answers) (expressed : first.Expressed) (expressed' : second.Expressed) :
    ∃ agreed, first.compare second = .ok agreed := by
  obtain ⟨constraints, members, terms⟩ := expressed_constraints first expressed
  obtain ⟨others, members', terms'⟩ := expressed_constraints second expressed'
  have comparable : Comparable others constraints := by
    intro constraint held other held'
    obtain ⟨expression, term⟩ := terms constraint held
    obtain ⟨expression', term'⟩ := terms' other held'
    rw [Constraint.agreesWith, term, term']
    split
    · exact answers.compared expression expression'
    · exact ⟨false, rfl⟩
  rw [compare, members, members', confirmed_agreed others constraints [] comparable]
  split
  · exact ⟨_, rfl⟩
  · split
    · exact ⟨_, rfl⟩
    · cases ScheduleShape.agreed others [] constraints with
      | nil => exact ⟨_, rfl⟩
      | cons constraint kept => exact ⟨_, rfl⟩

def Apart : Prop := first.isEmpty = true ∨ second.isEmpty = true ∨ first.arity ≠ second.arity

theorem compare_apart (apart : first.Apart second) : first.compare second = .ok .empty := by
  rw [compare]
  by_cases nothing : (first.isEmpty || second.isEmpty) = true
  · rw [if_pos nothing]
  · have differ : first.arity ≠ second.arity := by
      rcases apart with one | two | differ
      · simp [one] at nothing
      · simp [two] at nothing
      · exact differ
    rw [if_neg nothing, if_pos (by simpa using differ)]

theorem compare_together (together : ¬ first.Apart second) (agreed : ConstraintList)
    (compared : first.compare second = .ok agreed) :
    ∃ kept, confirmed second.members [] first.members = .ok kept
      ∧ agreed = if kept = [] then .empty else ofConstraints first.arity kept := by
  simp only [Apart, not_or, Bool.not_eq_true, Decidable.not_not] at together
  obtain ⟨one, two, same⟩ := together
  rw [compare, one, two, if_neg (by simp), if_neg (by simp [same])] at compared
  obtain ⟨kept, found, last⟩ := (both_ok_iff _ _ _).mp compared
  refine ⟨kept, found, ?_⟩
  cases kept with
  | nil =>
      cases last
      rfl
  | cons constraint kept =>
      cases last
      rfl

theorem compare_enumerates (agreed : ConstraintList) (compared : first.compare second = .ok agreed) :
    agreed = .empty ∨ ∃ entries, Enumerates second.members [] first.members entries ∧ entries ≠ []
      ∧ agreed = ofConstraints first.arity (entries.map Prod.snd) := by
  by_cases apart : first.Apart second
  · exact .inl (Except.ok.inj (compared.symm.trans (compare_apart first second apart)))
  · obtain ⟨kept, found, rfl⟩ := compare_together first second apart agreed compared
    obtain ⟨entries, rfl, enumerated⟩ := confirmed_enumerates _ _ _ kept found
    by_cases none : entries = []
    · exact .inl (if_pos (List.map_eq_nil_iff.mpr none))
    · exact .inr ⟨entries, enumerated, none, if_neg (mt List.map_eq_nil_iff.mp none)⟩

theorem first_of_backed (members others : List Operand) (constraint : Constraint)
    (held : .constraint constraint ∈ members) (backed : Backs others constraint) :
    ∃ place kept, FirstBacked members others place kept ∧ kept.label = constraint.label := by
  have somewhere : ∃ (place : Nat) (other : Constraint), members[place]? = some (.constraint other)
      ∧ other.label = constraint.label ∧ Backs others other := by
    obtain ⟨place, here⟩ := List.mem_iff_getElem?.mp held
    exact ⟨place, constraint, here, rfl, backed⟩
  classical
  obtain ⟨kept, here, same, kept_backed⟩ := Nat.find_spec somewhere
  refine ⟨Nat.find somewhere, kept, ⟨here, kept_backed, ?_⟩, same⟩
  intro earlier before other there alike otherBacked
  exact Nat.find_min somewhere before ⟨other, there, alike.trans same, otherBacked⟩

end

section

variable (members others : List Operand) (entries : List (Nat × Constraint))
  (enumerated : Enumerates others [] members entries)

include enumerated

theorem mem_enumerated (place : Nat) (constraint : Constraint) :
    (place, constraint) ∈ entries ↔ FirstBacked members others place constraint := by
  simpa using enumerated.chosen place constraint

theorem enumerated_labels_once : ((entries.map Prod.snd).map Constraint.label).Nodup := by
  have ordered := List.pairwise_map.mp enumerated.ordered
  rw [List.map_map]
  apply List.pairwise_map.mpr
  apply ordered.imp_of_mem
  rintro ⟨place, constraint⟩ ⟨later, other⟩ one two before same
  have here := (mem_enumerated members others entries enumerated place constraint).mp one
  have there := (mem_enumerated members others entries enumerated later other).mp two
  exact there.earliest place before constraint here.here same here.backed

theorem mem_enumerated_labels (label : Label) :
    label ∈ (entries.map Prod.snd).map Constraint.label ↔ ∃ constraint,
      .constraint constraint ∈ members ∧ constraint.label = label ∧ Backs others constraint := by
  constructor
  · intro among
    obtain ⟨constraint, kept, rfl⟩ := List.mem_map.mp among
    obtain ⟨⟨place, constraint⟩, entry, rfl⟩ := List.mem_map.mp kept
    have chosen := (mem_enumerated members others entries enumerated place constraint).mp entry
    exact ⟨constraint, List.mem_of_getElem? chosen.here, rfl, chosen.backed⟩
  · rintro ⟨constraint, held, rfl, backed⟩
    obtain ⟨place, kept, chosen, same⟩ := first_of_backed members others constraint held backed
    have entry := (mem_enumerated members others entries enumerated place kept).mpr chosen
    rw [← same]
    exact List.mem_map_of_mem (List.mem_map_of_mem entry)

theorem enumerated_none_iff : entries = [] ↔
    ¬ ∃ constraint, .constraint constraint ∈ members ∧ Backs others constraint := by
  constructor
  · rintro rfl ⟨constraint, held, backed⟩
    have among := (mem_enumerated_labels members others [] enumerated constraint.label).mpr
      ⟨constraint, held, rfl, backed⟩
    cases among
  · intro none
    by_contra some
    obtain ⟨⟨place, constraint⟩, entry⟩ := List.exists_mem_of_ne_nil entries some
    have chosen := (mem_enumerated members others entries enumerated place constraint).mp entry
    exact none ⟨constraint, List.mem_of_getElem? chosen.here, chosen.backed⟩

end

theorem keeps_enumerated (first second : ConstraintList) (entries : List (Nat × Constraint))
    (enumerated : Enumerates second.members [] first.members entries) :
    first.Keeps second (ofConstraints first.arity (entries.map Prod.snd)) where
  arity := rfl
  labels := ⟨entries.map Prod.snd, constraints_of_constraints _,
    enumerated_labels_once _ _ entries enumerated, mem_enumerated_labels _ _ entries enumerated⟩
  places := ⟨entries, by simp [ofConstraints], enumerated.ordered, mem_enumerated _ _ entries enumerated⟩

/-- The comparison of two lists, whatever they hold, is the empty list just when one of them is empty,
their arities differ or no constraint of the first has the label and the expression of one of the second.
Otherwise it has the arity of the first list and holds, for each label that the second list backs, the
first constraint of the first list that it backs, in the order of the first list. Lists that bind labels
to expressions can always be compared. -/
theorem compare_keeps_first_backed (first second : ConstraintList) :
    (Affine.Answers → first.Expressed → second.Expressed → ∃ agreed, first.compare second = .ok agreed)
    ∧ ((first.isEmpty = true ∨ second.isEmpty = true ∨ first.arity ≠ second.arity) →
      first.compare second = .ok .empty)
    ∧ ∀ agreed, first.compare second = .ok agreed →
      (agreed = .empty ↔ first.isEmpty = true ∨ second.isEmpty = true ∨ first.arity ≠ second.arity
        ∨ ¬ first.Overlaps second)
      ∧ (agreed ≠ .empty → first.Keeps second agreed) := by
  refine ⟨fun answers => compare_expressed first second answers, compare_apart first second, fun agreed compared => ?_⟩
  by_cases apart : first.Apart second
  · obtain rfl := Except.ok.inj (compared.symm.trans (compare_apart first second apart))
    exact ⟨iff_of_true rfl (apart.imp_right (Or.imp_right .inl)), fun some => absurd rfl some⟩
  · obtain ⟨kept, found, rfl⟩ := compare_together first second apart agreed compared
    obtain ⟨entries, rfl, enumerated⟩ := confirmed_enumerates _ _ _ kept found
    have overlap := enumerated_none_iff _ _ entries enumerated
    have reasons : (first.isEmpty = true ∨ second.isEmpty = true ∨ first.arity ≠ second.arity
        ∨ ¬ first.Overlaps second) ↔ entries = [] := by
      rw [overlap]
      simp only [Apart, not_or] at apart
      simp [apart, Overlaps]
    rw [reasons]
    by_cases none : entries = []
    · rw [if_pos (List.map_eq_nil_iff.mpr none)]
      exact ⟨iff_of_true rfl none, fun some => absurd rfl some⟩
    · rw [if_neg (mt List.map_eq_nil_iff.mp none)]
      refine ⟨iff_of_false (fun same => ?_) none, fun _ => keeps_enumerated first second entries enumerated⟩
      have members := congrArg ConstraintList.members same
      simp [ofConstraints, empty, none] at members

theorem bindings_expressed (arity : Int) (bindings : List (Label × Expression)) :
    (ofConstraints arity (bindings.map constraintOf)).Expressed := by
  intro member among
  obtain ⟨_, held, rfl⟩ := List.mem_map.mp among
  obtain ⟨binding, _, rfl⟩ := List.mem_map.mp held
  exact ⟨binding.1, binding.2, none, rfl⟩

end ConstraintList

end

def letterA : Label := ⟨"a", rfl⟩

def letterB : Label := ⟨"b", rfl⟩

namespace ConstraintList

def ahead (steps : Int) : BoxExpression where
  statement := { params := [], name := "S", dims := ["i"], ranges := [.unbounded] }
  form := { constant := steps, params := [], dims := [1] }

def boundByHand : ConstraintList :=
  .ofConstraints 7 ([(letterA, ahead 1), (letterB, ahead 1), (letterA, ahead 0),
    (letterA, ahead 2)].map constraintOf)

def backingByHand : ConstraintList :=
  .ofConstraints 7 ([(letterB, ahead 0), (letterA, ahead 2), (letterA, ahead 0)].map constraintOf)

theorem compare_keeps_first_backed_by_hand :
    Affine.Answers ∧ boundByHand.Expressed ∧ backingByHand.Expressed
      ∧ ∃ kept, boundByHand.compare backingByHand = .ok kept
        ∧ kept = .ofConstraints 7 [constraintOf (letterA, ahead 0)] ∧ kept ≠ .empty
        ∧ boundByHand.Keeps backingByHand kept := by
  have expressed : boundByHand.Expressed := bindings_expressed _ _
  have expressed' : backingByHand.Expressed := bindings_expressed _ _
  obtain ⟨returned, _, described⟩ := compare_keeps_first_backed boundByHand backingByHand
  obtain ⟨kept, compared⟩ := returned boxes_answers expressed expressed'
  have same : kept = .ofConstraints 7 [constraintOf (letterA, ahead 0)] :=
    Except.ok.inj (compared.symm.trans rfl)
  have some : kept ≠ .empty := by
    rw [same]
    intro empty
    cases congrArg ConstraintList.members empty
  exact ⟨boxes_answers, expressed, expressed', kept, compared, same, some, (described kept compared).2 some⟩

end ConstraintList

end ScheduleShape
