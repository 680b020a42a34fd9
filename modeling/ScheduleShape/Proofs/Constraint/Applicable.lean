import ScheduleShape.Constraint.Agreement
import ScheduleShape.Proofs.Outcome

set_option autoImplicit false

namespace ScheduleShape

variable [Affine]

section

variable (bindings others : List (Label × Expression)) (label : Label)

theorem meet_at_iff :
    MeetAt bindings others label ↔ ∃ first second, (label, first) ∈ bindings
      ∧ (label, second) ∈ others ∧ Affine.Same first second := by
  simp only [MeetAt, List.mem_iff_getElem?]
  constructor
  · rintro ⟨position, other, first, second, here, there, agree⟩
    exact ⟨first, second, ⟨position, here⟩, ⟨other, there⟩, agree⟩
  · rintro ⟨first, second, ⟨position, here⟩, ⟨other, there⟩, agree⟩
    exact ⟨position, other, first, second, here, there, agree⟩

theorem agree_throughout_iff :
    AgreeThroughout bindings others label ↔ ∀ first second, (label, first) ∈ bindings →
      (label, second) ∈ others → Affine.Same first second := by
  simp only [AgreeThroughout, List.mem_iff_getElem?]
  constructor
  · rintro agree first second ⟨position, here⟩ ⟨other, there⟩
    exact agree position other first second here there
  · intro agree position other first second here there
    exact agree first second ⟨position, here⟩ ⟨other, there⟩

theorem differ_throughout_iff (answers : Affine.Answers) :
    DifferThroughout bindings others label ↔ ¬ MeetAt bindings others label := by
  constructor
  · rintro differ ⟨position, other, first, second, here, there, agree⟩
    cases agree.symm.trans (differ position other first second here there)
  · intro apart position other first second here there
    obtain ⟨answer, compared⟩ := answers.compared first second
    cases answer with
    | false => exact compared
    | true => exact absurd ⟨position, other, first, second, here, there, compared⟩ apart

end

section

variable (equivalence : Equivalence Affine.Same)

include equivalence in
theorem agree_throughout_cons_iff (label : Label) (expression : Expression)
    (bindings : List (Label × Expression)) :
    (∀ other, AgreeThroughout ((label, expression) :: bindings) ((label, expression) :: bindings) other)
      ↔ (∀ later, (label, later) ∈ bindings → Affine.Same expression later)
        ∧ ∀ other, AgreeThroughout bindings bindings other := by
  simp only [agree_throughout_iff]
  constructor
  · intro agree
    constructor
    · intro later among
      exact agree label expression later List.mem_cons_self (List.mem_cons_of_mem _ among)
    · intro other first second here there
      exact agree other first second (List.mem_cons_of_mem _ here) (List.mem_cons_of_mem _ there)
  · rintro ⟨first, rest⟩ other one two here there
    rw [List.mem_cons] at here there
    rcases here with same | here
    · cases same
      rcases there with same | there
      · cases same
        exact equivalence.refl expression
      · exact first two there
    · rcases there with same | there
      · cases same
        exact equivalence.symm (first one here)
      · exact rest other one two here there

end

theorem lookup_past (label other : Label) (expression : Expression) (met : List (Label × Expression))
    (different : other ≠ label) : ((label, expression) :: met).lookup other = met.lookup other := by
  have apart : (other == label) = false := by simpa using different
  rw [List.lookup_cons, apart]

def Covers (met bindings : List (Label × Expression)) : Prop :=
  ∀ label bound expression, met.lookup label = some bound → (label, expression) ∈ bindings →
    Affine.Same bound expression

section

variable (met bindings : List (Label × Expression)) (label : Label) (expression : Expression)

theorem covers_known (bound : Expression) (known : met.lookup label = some bound) :
    Covers met ((label, expression) :: bindings) ↔
      Affine.Same bound expression ∧ Covers met bindings := by
  constructor
  · intro covers
    refine ⟨covers label bound expression known List.mem_cons_self, ?_⟩
    intro other held later found among
    exact covers other held later found (List.mem_cons_of_mem _ among)
  · rintro ⟨agree, covers⟩ other held later found among
    rw [List.mem_cons] at among
    rcases among with same | among
    · cases same
      rw [known] at found
      cases found
      exact agree
    · exact covers other held later found among

section

variable (fresh : met.lookup label = none)

include fresh

theorem covers_fresh : Covers met ((label, expression) :: bindings) ↔ Covers met bindings := by
  constructor
  · intro covers other held later found among
    exact covers other held later found (List.mem_cons_of_mem _ among)
  · intro covers other held later found among
    rw [List.mem_cons] at among
    rcases among with same | among
    · cases same
      rw [fresh] at found
      cases found
    · exact covers other held later found among

theorem covers_met : Covers ((label, expression) :: met) bindings ↔
    (∀ later, (label, later) ∈ bindings → Affine.Same expression later) ∧ Covers met bindings := by
  constructor
  · intro covers
    constructor
    · intro later among
      exact covers label expression later List.lookup_cons_self among
    · intro other held later found among
      have different : other ≠ label := by
        rintro rfl
        rw [fresh] at found
        cases found
      rw [← lookup_past label other expression met different] at found
      exact covers other held later found among
  · rintro ⟨first, covers⟩ other held later found among
    by_cases same : other = label
    · subst same
      rw [List.lookup_cons_self] at found
      cases found
      exact first later among
    · rw [lookup_past label other expression met same] at found
      exact covers other held later found among

end

end

theorem repeats_agree_answers (answers : Affine.Answers) (met bindings : List (Label × Expression)) :
    ∃ answer, repeatsAgree met bindings = .ok answer := by
  induction bindings generalizing met with
  | nil => exact ⟨true, rfl⟩
  | cons binding bindings ih =>
      obtain ⟨label, expression⟩ := binding
      rw [repeatsAgree]
      cases met.lookup label with
      | some bound =>
          apply both_answer _ _ (answers.compared bound expression)
          rintro (_ | _) _
          · exact ⟨false, rfl⟩
          · exact ih met
      | none => exact ih _

-- What has been met before stands for the first positions of its labels.
theorem repeats_agree_iff (equivalence : Equivalence Affine.Same) (met bindings : List (Label × Expression))
    (answer : Bool) (ended : repeatsAgree met bindings = .ok answer) :
    answer = true ↔ Covers met bindings ∧ ∀ label, AgreeThroughout bindings bindings label := by
  induction bindings generalizing met with
  | nil =>
      cases ended
      simp [agree_throughout_iff, Covers]
  | cons binding bindings ih =>
      obtain ⟨label, expression⟩ := binding
      rw [agree_throughout_cons_iff equivalence]
      rw [repeatsAgree] at ended
      cases known : met.lookup label with
      | some bound =>
          rw [known] at ended
          obtain ⟨same, compared, further⟩ := (both_ok_iff _ _ _).mp ended
          rw [covers_known met bindings label expression bound known]
          cases same with
          | true =>
              have agree : Affine.Same bound expression := compared
              rw [ih met further, and_iff_right agree]
              refine and_congr_right fun covers => (and_iff_right fun later among => ?_).symm
              exact equivalence.trans (equivalence.symm agree) (covers label bound later known among)
          | false =>
              cases further
              refine iff_of_false Bool.false_ne_true fun both => ?_
              cases compared.symm.trans both.1.1
      | none =>
          rw [known] at ended
          rw [ih _ ended, covers_fresh met bindings label expression known,
            covers_met met bindings label expression known, and_left_comm, and_assoc]

section

variable (access : Access)

theorem yields_iff (expressions : List Expression) :
    expressionsOf access = .ok (some expressions) ↔ Yields access expressions := by
  rw [expressionsOf, both_ok_iff]
  constructor
  · rintro ⟨single, decided, further⟩
    cases single with
    | false => cases further
    | true =>
        obtain ⟨function, converted, further⟩ := (both_ok_iff _ _ _).mp further
        obtain ⟨found, given, ended⟩ := (both_ok_iff _ _ _).mp further
        cases ended
        obtain ⟨counted, each⟩ := List.forall₂_iff_get.mp ((map_ok_iff _ _ _).mp given)
        rw [List.length_range] at counted
        refine ⟨decided, counted.symm, function, converted, fun position expression here => ?_⟩
        obtain ⟨within, rfl⟩ := List.getElem?_eq_some_iff.mp here
        simpa using each position (by simpa [counted] using within) within
  · rintro ⟨decided, counted, function, converted, outputs⟩
    refine ⟨true, decided, ?_⟩
    have given : (List.range (Affine.arity access)).mapM (Affine.output function) = .ok expressions := by
      refine (map_ok_iff _ _ _).mpr (List.forall₂_iff_get.mpr ⟨by simp [counted], fun position _ within => ?_⟩)
      simpa using outputs position expressions[position] (List.getElem?_eq_getElem within)
    rw [if_pos rfl, converted]
    change (List.mapM (Affine.output function) (List.range (Affine.arity access)) >>= _) = _
    rw [given]
    rfl

theorem expressions_answer (answers : Affine.Answers) : ∃ found, expressionsOf access = .ok found := by
  rw [expressionsOf]
  apply both_answer _ _ (answers.decided access)
  rintro (_ | _) decided
  · exact ⟨none, rfl⟩
  · apply both_answer _ _ (answers.converted access decided)
    intro function converted
    apply both_answer _ _ (map_ok _ _ fun position within =>
      answers.given access function converted position (List.mem_range.mp within))
    exact fun expressions _ => ⟨some expressions, rfl⟩

end

namespace AccessMatcher

section

variable (matcher : AccessMatcher) (access : Access)

theorem judge_answers (answers : Affine.Answers) : ∃ verdict, matcher.judge access = .ok verdict := by
  rw [judge]
  apply both_answer _ _ (expressions_answer access answers)
  rintro (_ | expressions) _
  · exact ⟨_, rfl⟩
  · apply both_answer _ _ (repeats_agree_answers answers [] (matcher.labels.zip expressions))
    rintro (_ | _) _
    · exact ⟨_, rfl⟩
    · exact ⟨_, rfl⟩

theorem candidate_judged (list : ConstraintList) : matcher.candidate? access = some list ↔
    Affine.arity access = matcher.size ∧ matcher.judge access = .ok (.candidate list) := by
  rw [candidate?, verdict?]
  by_cases fits : Affine.arity access = matcher.size
  · rw [if_pos fits, and_iff_right fits]
    cases matcher.judge access with
    | error fault => simp [Except.toOption]
    | ok verdict => cases verdict <;> simp [Except.toOption, Verdict.candidate?]
  · simp [fits]

theorem judged_candidate_iff (list : ConstraintList) : matcher.judge access = .ok (.candidate list) ↔
    ∃ expressions, Yields access expressions ∧ repeatsAgree [] (matcher.labels.zip expressions) = .ok true
      ∧ list = .ofConstraints expressions.length ((matcher.labels.zip expressions).map constraintOf) := by
  rw [judge, both_ok_iff]
  constructor
  · rintro ⟨found, asked, further⟩
    cases found with
    | none => cases further
    | some expressions =>
        obtain ⟨answer, checked, ended⟩ := (both_ok_iff _ _ _).mp further
        cases answer with
        | false => cases ended
        | true =>
            cases ended
            exact ⟨expressions, (yields_iff access expressions).mp asked, checked, rfl⟩
  · rintro ⟨expressions, yields, checked, rfl⟩
    exact ⟨some expressions, (yields_iff access expressions).mpr yields, (both_ok_iff _ _ _).mpr ⟨true, checked, rfl⟩⟩

theorem candidate_yields (list : ConstraintList) (drawn : matcher.candidate? access = some list) :
    ∃ expressions, Affine.arity access = matcher.size ∧ Yields access expressions
      ∧ list = .ofConstraints matcher.size ((matcher.labels.zip expressions).map constraintOf) := by
  obtain ⟨arity, judged⟩ := (matcher.candidate_judged access list).mp drawn
  obtain ⟨expressions, yields, _, rfl⟩ := (matcher.judged_candidate_iff access list).mp judged
  exact ⟨expressions, arity, yields, by rw [yields.counted, arity]⟩

theorem length_of_applies (expressions : List Expression) (applies : matcher.Applies access expressions) :
    expressions.length = matcher.labels.length := applies.yields.counted.trans applies.arity

theorem candidate_iff (answers : Affine.Answers) (equivalence : Equivalence Affine.Same) (list : ConstraintList) :
    matcher.candidate? access = some list ↔ ∃ expressions, matcher.Applies access expressions
      ∧ list = .ofConstraints matcher.size ((matcher.labels.zip expressions).map constraintOf) := by
  rw [candidate_judged, judged_candidate_iff]
  constructor
  · rintro ⟨arity, expressions, yields, checked, rfl⟩
    refine ⟨expressions, ⟨arity, yields, ((repeats_agree_iff equivalence _ _ _ checked).mp rfl).2⟩, ?_⟩
    rw [yields.counted, arity]
  · rintro ⟨expressions, ⟨arity, yields, repeats⟩, rfl⟩
    obtain ⟨answer, checked⟩ := repeats_agree_answers answers [] (matcher.labels.zip expressions)
    have agree := (repeats_agree_iff equivalence _ _ _ checked).mpr ⟨by simp [Covers], repeats⟩
    rw [agree] at checked
    exact ⟨arity, expressions, yields, checked, by rw [yields.counted, arity]⟩

end

theorem mem_candidates_iff (matcher : AccessMatcher) (accesses : List Access) (answers : Affine.Answers)
    (equivalence : Equivalence Affine.Same) (list : ConstraintList) :
    list ∈ matcher.candidates accesses ↔ ∃ access expressions, access ∈ accesses
      ∧ matcher.Applies access expressions
      ∧ list = .ofConstraints matcher.size ((matcher.labels.zip expressions).map constraintOf) := by
  simp only [candidates, List.mem_filterMap, matcher.candidate_iff _ answers equivalence, exists_and_left]

end AccessMatcher

end ScheduleShape
