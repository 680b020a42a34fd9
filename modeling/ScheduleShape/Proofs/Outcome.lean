import Mathlib.Data.List.Forall2
import ScheduleShape.Outcome

set_option autoImplicit false

namespace ScheduleShape

theorem map_ok_iff {α β : Type} (ask : α → Except Fault β) (items : List α) (results : List β) :
    items.mapM ask = .ok results ↔ List.Forall₂ (fun item result => ask item = .ok result) items results := by
  induction items generalizing results with
  | nil =>
      rw [List.mapM_nil, List.forall₂_nil_left_iff]
      exact ⟨fun ended => (Except.ok.inj ended).symm, fun same => congrArg Except.ok same.symm⟩
  | cons item items ih =>
      rw [List.mapM_cons, List.forall₂_cons_left_iff]
      simp only [both_ok_iff, ih]
      constructor
      · rintro ⟨result, first, rest, later, ended⟩
        cases ended
        exact ⟨result, rest, first, later, rfl⟩
      · rintro ⟨result, rest, first, later, rfl⟩
        exact ⟨result, first, rest, later, rfl⟩

theorem map_ok {α β : Type} (ask : α → Except Fault β) (items : List α)
    (answers : ∀ item ∈ items, ∃ result, ask item = .ok result) : ∃ results, items.mapM ask = .ok results := by
  induction items with
  | nil => exact ⟨[], rfl⟩
  | cons item items ih =>
      obtain ⟨result, first⟩ := answers item List.mem_cons_self
      obtain ⟨rest, later⟩ := ih fun other among => answers other (List.mem_cons_of_mem item among)
      exact ⟨result :: rest, by rw [List.mapM_cons, first, later]; rfl⟩

section

variable {σ α β γ δ : Type}

def Shows (view : α → β) (run : EStateM Fault σ α) (expected : Except Fault β) : Prop :=
  ∀ state, (outcomeOf (run state)).map view = expected

def Steady (view : σ → β) (run : EStateM Fault σ α) : Prop :=
  ∀ state, view (stateOf (run state)) = view state

theorem steady_bind (view : σ → β) (run : EStateM Fault σ α) (next : α → EStateM Fault σ γ)
    (first : Steady view run) (second : ∀ result, Steady view (next result)) :
    Steady view (run >>= next) := by
  intro state
  have kept := first state
  rcases bind_run run next state with ⟨result, between, began, goesOn⟩ | ⟨fault, between, began, fails⟩
  · rw [began] at kept
    rw [goesOn]
    exact (second result between).trans kept
  · rw [began] at kept
    rw [fails]
    exact kept

theorem shows_pure (view : α → β) (result : α) :
    Shows view (pure result : EStateM Fault σ α) (.ok (view result)) := by
  intro state
  rfl

theorem shows_throw (view : α → β) (fault : Fault) :
    Shows view (throw fault : EStateM Fault σ α) (.error fault) := by
  intro state
  rfl

theorem shows_get (view : α → β) (next : σ → EStateM Fault σ α) (expected : Except Fault β)
    (shown : ∀ state, Shows view (next state) expected) :
    Shows view (get >>= next) expected := by
  intro state
  exact shown state state

theorem shows_modify (view : α → β) (change : σ → σ) (next : EStateM Fault σ α)
    (expected : Except Fault β) (shown : Shows view next expected) :
    Shows view (modify change >>= fun _ => next) expected := by
  intro state
  exact shown (change state)

theorem shows_bind (view : α → β) (view' : γ → δ) (run : EStateM Fault σ α)
    (next : α → EStateM Fault σ γ) (expected : Except Fault β) (after : β → Except Fault δ)
    (first : Shows view run expected)
    (second : ∀ result, expected = .ok (view result) → Shows view' (next result) (after (view result))) :
    Shows view' (run >>= next) (expected >>= after) := by
  intro state
  have shown := first state
  rcases bind_run run next state with ⟨result, between, began, goesOn⟩ | ⟨fault, between, began, fails⟩
  · rw [began] at shown
    cases shown
    rw [goesOn]
    exact second result rfl between
  · rw [began] at shown
    cases shown
    rw [fails]
    rfl

theorem shows_then (view : α → β) (view' : γ → δ) (run : EStateM Fault σ α)
    (next : α → EStateM Fault σ γ) (seen : β) (expected : Except Fault δ)
    (first : Shows view run (.ok seen))
    (second : ∀ result, view result = seen → Shows view' (next result) expected) :
    Shows view' (run >>= next) expected := by
  apply shows_bind view view' run next (.ok seen) (fun _ => expected) first
  intro result same
  exact second result (Except.ok.inj same).symm

theorem shows_and (view : α → Bool) (view' : γ → Bool) (run : EStateM Fault σ α)
    (next stop : α → EStateM Fault σ γ) (expected after : Except Fault Bool)
    (first : Shows view run expected)
    (second : ∀ result, Shows view' (next result) after)
    (stopped : ∀ result, Shows view' (stop result) (.ok false)) :
    Shows view' (run >>= fun result => if view result then next result else stop result)
      (expected <&&> after) := by
  apply shows_bind view view' run _ expected _ first
  intro result _
  cases view result with
  | true => exact second result
  | false => exact stopped result

theorem shows_or (view : α → Bool) (run : EStateM Fault σ α) (next : EStateM Fault σ Bool)
    (expected after : Except Fault Bool) (first : Shows view run expected)
    (second : Shows id next after) :
    Shows id (run >>= fun result => if view result then pure true else next)
      (expected <||> after) := by
  apply shows_bind view id run _ expected _ first
  intro result _
  cases view result with
  | true => exact shows_pure id true
  | false => exact second

theorem shows_ok (view : α → β) (run : EStateM Fault σ α) (seen : β)
    (shown : Shows view run (.ok seen)) (state : σ) :
    ∃ result after, run state = .ok result after ∧ view result = seen := by
  have here := shown state
  cases ended : run state with
  | ok result after =>
      rw [ended] at here
      exact ⟨result, after, rfl, Except.ok.inj here⟩
  | error fault after =>
      rw [ended] at here
      cases here

theorem shows_of_ok (view : α → β) (run : EStateM Fault σ α) (expected : Except Fault β)
    (shown : Shows view run expected) (state after : σ) (result : α)
    (ended : run state = .ok result after) : expected = .ok (view result) := by
  rw [← shown state, ended]
  rfl

theorem shows_lift (answer : Except Fault α) :
    Shows id (liftM answer : EStateM Fault σ α) answer := by
  intro state
  cases answer <;> rfl

end

section

variable {σ α β : Type}

inductive EndsAlike (states : σ → σ → Prop) (results : α → α → Prop) :
    EStateM.Result Fault σ α → EStateM.Result Fault σ α → Prop where
  | ok {result other : α} {state otherState : σ} (same : results result other)
      (kept : states state otherState) : EndsAlike states results (.ok result state) (.ok other otherState)
  | error {fault : Fault} {state otherState : σ} (kept : states state otherState) :
      EndsAlike states results (.error fault state) (.error fault otherState)

def Parallel (states : σ → σ → Prop) (results : α → α → Prop) (run other : EStateM Fault σ α) : Prop :=
  ∀ state otherState, states state otherState → EndsAlike states results (run state) (other otherState)

section

variable {states : σ → σ → Prop} {results : α → α → Prop} {ends : β → β → Prop}

theorem ends_alike_imp {further : α → α → Prop} (run other : EStateM.Result Fault σ α)
    (implies : ∀ result otherResult, results result otherResult → further result otherResult)
    (alike : EndsAlike states results run other) : EndsAlike states further run other := by
  cases alike with
  | ok same kept => exact .ok (implies _ _ same) kept
  | error kept => exact .error kept

theorem parallel_pure (result other : α) (same : results result other) :
    Parallel states results (pure result) (pure other) :=
  fun _ _ kept => .ok same kept

theorem parallel_throw (fault : Fault) : Parallel states results (throw fault) (throw fault) :=
  fun _ _ kept => .error kept

theorem parallel_bind {run other : EStateM Fault σ α} {next otherNext : α → EStateM Fault σ β}
    (first : Parallel states results run other)
    (second : ∀ result otherResult, results result otherResult →
      Parallel states ends (next result) (otherNext otherResult)) :
    Parallel states ends (run >>= next) (other >>= otherNext) := by
  intro state otherState kept
  have began := first state otherState kept
  change EndsAlike states ends (EStateM.bind run next state) (EStateM.bind other otherNext otherState)
  unfold EStateM.bind
  generalize run state = ended, other otherState = otherEnded at began
  cases began with
  | ok same kept => exact second _ _ same _ _ kept
  | error kept => exact .error kept

theorem parallel_ite {yes no otherYes otherNo : EStateM Fault σ α} (answer : Bool)
    (first : Parallel states results yes otherYes) (second : Parallel states results no otherNo) :
    Parallel states results (if answer then yes else no) (if answer then otherYes else otherNo) := by
  cases answer <;> assumption

theorem parallel_ask {run other : EStateM Fault σ Bool} {yes no otherYes otherNo : EStateM Fault σ α}
    (asked : Parallel states Eq run other) (first : Parallel states results yes otherYes)
    (second : Parallel states results no otherNo) :
    Parallel states results (do if ← run then yes else no) (do if ← other then otherYes else otherNo) := by
  apply parallel_bind asked
  rintro answer _ rfl
  exact parallel_ite answer first second

end

theorem parallel_lift {states : σ → σ → Prop} (answer : Except Fault α) :
    Parallel states Eq (liftM answer : EStateM Fault σ α) (liftM answer) := by
  cases answer with
  | ok result => exact parallel_pure result result rfl
  | error fault => exact parallel_throw fault

end

end ScheduleShape
