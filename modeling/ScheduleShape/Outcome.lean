import ScheduleShape.Fault

set_option autoImplicit false

namespace ScheduleShape

variable {σ τ α β : Type}

def outcomeOf : EStateM.Result Fault σ α → Except Fault α
  | .ok result _ => .ok result
  | .error fault _ => .error fault

def stateOf : EStateM.Result Fault σ α → σ
  | .ok _ state => state
  | .error _ state => state

def ofExcept : Except Fault α → EStateM Fault σ α
  | .ok result => pure result
  | .error fault => throw fault

instance : MonadLift (Except Fault) (EStateM Fault σ) := ⟨ofExcept⟩

def onPart (part : τ → σ) (replace : τ → σ → τ) (run : EStateM Fault σ α) : EStateM Fault τ α :=
  fun state => match run (part state) with
    | .ok result after => .ok result (replace state after)
    | .error fault after => .error fault (replace state after)

@[simp]
theorem lift_ok_bind (result : α) (next : α → EStateM Fault σ β) :
    (liftM (.ok result : Except Fault α) >>= next) = next result := rfl

@[simp]
theorem lift_error_bind (fault : Fault) (next : α → EStateM Fault σ β) :
    (liftM (.error fault : Except Fault α) >>= next) = throw fault := rfl

theorem bind_run (run : EStateM Fault σ α) (next : α → EStateM Fault σ β) (state : σ) :
    (∃ result between, run state = .ok result between ∧ (run >>= next) state = next result between) ∨
      ∃ fault between, run state = .error fault between
        ∧ (run >>= next) state = .error fault between := by
  change (∃ result between, _ ∧ EStateM.bind run next state = _) ∨
    ∃ fault between, _ ∧ EStateM.bind run next state = _
  unfold EStateM.bind
  cases run state with
  | ok result between => exact .inl ⟨result, between, rfl, rfl⟩
  | error fault between => exact .inr ⟨fault, between, rfl, rfl⟩

theorem bind_of_ok (run : EStateM Fault σ α) (next : α → EStateM Fault σ β) (state between : σ)
    (result : α) (began : run state = .ok result between) :
    (run >>= next) state = next result between := by
  change EStateM.bind run next state = _
  rw [EStateM.bind, began]

theorem bind_of_error (run : EStateM Fault σ α) (next : α → EStateM Fault σ β) (state between : σ)
    (fault : Fault) (failed : run state = .error fault between) :
    (run >>= next) state = .error fault between := by
  change EStateM.bind run next state = _
  rw [EStateM.bind, failed]

theorem bind_ok (run : EStateM Fault σ α) (next : α → EStateM Fault σ β) (state after : σ)
    (result : β) (ended : (run >>= next) state = .ok result after) :
    ∃ first between, run state = .ok first between ∧ next first between = .ok result after := by
  rcases bind_run run next state with ⟨first, between, began, goesOn⟩ | ⟨fault, between, _, fails⟩
  · exact ⟨first, between, began, goesOn.symm.trans ended⟩
  · rw [fails] at ended
    cases ended

theorem lift_ok (answer : Except Fault α) (state after : σ) (result : α)
    (ended : (liftM answer : EStateM Fault σ α) state = .ok result after) :
    answer = .ok result ∧ after = state := by
  cases answer with
  | ok found =>
      cases ended
      exact ⟨rfl, rfl⟩
  | error fault => cases ended

end ScheduleShape
