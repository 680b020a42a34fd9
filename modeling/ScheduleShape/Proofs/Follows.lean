import ScheduleShape.Outcome

set_option autoImplicit false

namespace ScheduleShape

section

variable {σ δ α β : Type} (act : σ → δ → σ) (fits : δ → Prop) (sure : Prop)

-- What a run does to its state is one deed after another, whatever the state is. A run that is stopped
-- by a fault has done other deeds, but none that does not fit.
inductive Follows (deeds : List δ) (result : α) (run : EStateM Fault σ α) : Prop where
  | ended (fitting : ∀ deed ∈ deeds, fits deed) (ends : ∀ state, run state = .ok result (deeds.foldl act state))
  | stopped (done : List δ) (fault : Fault) (unsure : ¬ sure) (fitting : ∀ deed ∈ done, fits deed)
      (stops : ∀ state, run state = .error fault (done.foldl act state))

variable {act fits sure}

theorem follows_pure (result : α) : Follows act fits sure [] result (pure result) :=
  .ended (by simp) fun _ => rfl

theorem follows_then {deeds more : List δ} {run : EStateM Fault σ α} {next : α → EStateM Fault σ β} {result : α}
    {last : β} (first : Follows act fits sure deeds result run)
    (second : Follows act fits sure more last (next result)) :
    Follows act fits sure (deeds ++ more) last (run >>= next) := by
  cases first with
  | ended fitting ends =>
      have goesOn : ∀ state, (run >>= next) state = next result (deeds.foldl act state) :=
        fun state => bind_of_ok run next state _ result (ends state)
      cases second with
      | ended fitting' ends' =>
          refine .ended (List.forall_mem_append.mpr ⟨fitting, fitting'⟩) fun state => ?_
          rw [goesOn, ends', List.foldl_append]
      | stopped done fault unsure fitting' stops =>
          refine .stopped (deeds ++ done) fault unsure (List.forall_mem_append.mpr ⟨fitting, fitting'⟩) fun state => ?_
          rw [goesOn, stops, List.foldl_append]
  | stopped done fault unsure fitting stops =>
      exact .stopped done fault unsure fitting fun state => bind_of_error run next state _ fault (stops state)

theorem follows_map {deeds : List δ} {run : EStateM Fault σ α} {result : α} (change : α → β)
    (first : Follows act fits sure deeds result run) :
    Follows act fits sure deeds (change result) (do pure (change (← run))) := by
  have both : Follows act fits sure (deeds ++ []) (change result) (do pure (change (← run))) :=
    follows_then first (follows_pure (change result))
  rwa [List.append_nil] at both

theorem follows_imp {further : Prop} {deeds : List δ} {run : EStateM Fault σ α} {result : α}
    (implies : further → sure) (follows : Follows act fits sure deeds result run) :
    Follows act fits further deeds result run := by
  cases follows with
  | ended fitting ends => exact .ended fitting ends
  | stopped done fault unsure fitting stops => exact .stopped done fault (mt implies unsure) fitting stops

section

variable {deeds : List δ} {run : EStateM Fault σ α} {result : α} (follows : Follows act fits sure deeds result run)

include follows

theorem follows_sure (certain : sure) (state : σ) : run state = .ok result (deeds.foldl act state) := by
  cases follows with
  | ended _ ends => exact ends state
  | stopped _ _ unsure _ _ => exact absurd certain unsure

theorem follows_ok (state after : σ) (found : α) (reached : run state = .ok found after) :
    found = result ∧ after = deeds.foldl act state := by
  cases follows with
  | ended _ ends =>
      cases (ends state).symm.trans reached
      exact ⟨rfl, rfl⟩
  | stopped _ _ _ _ stops => cases (stops state).symm.trans reached

theorem follows_deeds : ∃ (done : List δ) (outcome : Except Fault α), (∀ deed ∈ done, fits deed)
    ∧ ∀ state, outcomeOf (run state) = outcome ∧ stateOf (run state) = done.foldl act state := by
  cases follows with
  | ended fitting ends => exact ⟨deeds, .ok result, fitting, fun state => by rw [ends]; exact ⟨rfl, rfl⟩⟩
  | stopped done fault _ fitting stops => exact ⟨done, .error fault, fitting, fun state => by rw [stops]; exact ⟨rfl, rfl⟩⟩

end

end

end ScheduleShape
