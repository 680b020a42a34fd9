import ScheduleShape.Operand.Render

set_option autoImplicit false

namespace ScheduleShape

section

variable {α β : Type}

def Carries (first second : Except Fault α) : Prop := ∀ result, first = .ok result → second = .ok result

theorem carries_self (answer : Except Fault α) : Carries answer answer := fun _ done => done

theorem carries_bind (first second : Except Fault α) (next otherNext : α → Except Fault β)
    (start : Carries first second) (after : ∀ part, Carries (next part) (otherNext part)) :
    Carries (first >>= next) (second >>= otherNext) := by
  intro result done
  obtain ⟨part, began, ended⟩ := (both_ok_iff first next result).mp done
  rw [start part began]
  exact after part result ended

theorem carries_map (ask other : α → Except Fault β) (each : ∀ item, Carries (ask item) (other item))
    (items : List α) : Carries (items.mapM ask) (items.mapM other) := by
  induction items with
  | nil => exact carries_self _
  | cons item items ih =>
      rw [List.mapM_cons, List.mapM_cons]
      apply carries_bind _ _ _ _ (each item)
      intro result
      exact carries_bind _ _ _ _ ih fun _ => carries_self _

end

variable [Affine]

def DrawsFurther (draw redraw : AccessMatcher → Except Fault String) : Prop :=
  ∀ matcher, Carries (draw matcher) (redraw matcher)

def QuotesFurther (quote requote : List Enclosing → AccessMatcher → Except Fault String) : Prop :=
  ∀ around matcher, Carries (quote around matcher) (requote around matcher)

section

variable (quote requote : List Enclosing → AccessMatcher → Except Fault String)

mutual

theorem Operand.literal_carries (quoted : QuotesFurther quote requote) (around : List Enclosing) :
    ∀ operand : Operand, Carries (operand.literalWith quote around) (operand.literalWith requote around)
  | .value _ => carries_self _
  | .expression _ => carries_self _
  | .relation _ => carries_self _
  | .matcher held => quoted around held
  | .constraint held => held.literal_carries quoted around
  | .constraints held => held.literal_carries quoted around
  | .finder _ => carries_self _
  | .items mark held => by
      rw [Operand.literalWith, Operand.literalWith]
      cases enter around (some mark) with
      | none => exact carries_self _
      | some inside =>
          exact carries_bind _ _ _ _ (Operand.literals_carry quoted inside held) fun _ => carries_self _

theorem Constraint.literal_carries (quoted : QuotesFurther quote requote) (around : List Enclosing) :
    ∀ held : Constraint, Carries (held.literalWith quote around) (held.literalWith requote around)
  | ⟨_, term, mark⟩ => by
      rw [Constraint.literalWith, Constraint.literalWith]
      cases enter around mark with
      | none => exact carries_self _
      | some inside =>
          exact carries_bind _ _ _ _ (term.literal_carries quoted inside) fun _ => carries_self _

theorem ConstraintList.literal_carries (quoted : QuotesFurther quote requote) (around : List Enclosing) :
    ∀ held : ConstraintList, Carries (held.literalWith quote around) (held.literalWith requote around)
  | ⟨_, members, mark⟩ => by
      rw [ConstraintList.literalWith, ConstraintList.literalWith]
      cases enter around mark with
      | none => exact carries_self _
      | some inside =>
          exact carries_bind _ _ _ _ (Operand.literals_carry quoted inside members) fun _ => carries_self _

theorem Operand.literals_carry (quoted : QuotesFurther quote requote) (around : List Enclosing) :
    ∀ operands, Carries (Operand.literalsWith quote around operands) (Operand.literalsWith requote around operands)
  | [] => carries_self _
  | operand :: operands => by
      rw [Operand.literalsWith, Operand.literalsWith]
      apply carries_bind _ _ _ _ (operand.literal_carries quoted around)
      intro first
      exact carries_bind _ _ _ _ (Operand.literals_carry quoted around operands) fun _ => carries_self _

end

variable (draw redraw : AccessMatcher → Except Fault String)

mutual

theorem Operand.display_carries (drawn : DrawsFurther draw redraw) (quoted : QuotesFurther quote requote) :
    ∀ operand : Operand, Carries (operand.displayWith draw quote) (operand.displayWith redraw requote)
  | .value _ => carries_self _
  | .expression _ => carries_self _
  | .relation _ => carries_self _
  | .matcher held => drawn held
  | .constraint held => held.display_carries drawn quoted
  | .constraints held => held.display_carries drawn quoted
  | .finder _ => carries_self _
  | .items mark held => Operand.literal_carries quote requote quoted [] (.items mark held)

theorem Constraint.display_carries (drawn : DrawsFurther draw redraw) (quoted : QuotesFurther quote requote) :
    ∀ held : Constraint, Carries (held.displayWith draw quote) (held.displayWith redraw requote)
  | ⟨_, term, _⟩ => carries_bind _ _ _ _ (term.display_carries drawn quoted) fun _ => carries_self _

theorem ConstraintList.display_carries (drawn : DrawsFurther draw redraw) (quoted : QuotesFurther quote requote) :
    ∀ held : ConstraintList, Carries (held.displayWith draw quote) (held.displayWith redraw requote)
  | ⟨arity, members, _⟩ => by
      rw [ConstraintList.displayWith, ConstraintList.displayWith]
      by_cases empty : (arity == -1) = true
      · rw [if_pos empty, if_pos empty]
        exact carries_self _
      · rw [if_neg empty, if_neg empty]
        exact carries_bind _ _ _ _ (Operand.displays_carry drawn quoted members) fun _ => carries_self _

theorem Operand.displays_carry (drawn : DrawsFurther draw redraw) (quoted : QuotesFurther quote requote) :
    ∀ operands, Carries (Operand.displaysWith draw quote operands) (Operand.displaysWith redraw requote operands)
  | [] => carries_self _
  | operand :: operands => by
      rw [Operand.displaysWith, Operand.displaysWith]
      apply carries_bind _ _ _ _ (operand.display_carries drawn quoted)
      intro first
      exact carries_bind _ _ _ _ (Operand.displays_carry drawn quoted operands) fun _ => carries_self _

end

end

namespace AccessMatcher

variable (ledger : Ledger)

theorem literal_carries (depth : Nat) : QuotesFurther (literal ledger depth) (literal ledger (depth + 1)) := by
  induction depth with
  | zero =>
      intro around matcher text done
      cases done
  | succ depth ih =>
      intro around matcher
      rw [literal, literal]
      by_cases inside : .matcher matcher ∈ around
      · rw [if_pos inside, if_pos inside]
        exact carries_self _
      · rw [if_neg inside, if_neg inside]
        apply carries_bind
        · apply carries_map
          exact Operand.literals_carry _ _ ih _
        · exact fun _ => carries_self _

theorem display_carries (depth : Nat) : DrawsFurther (display ledger depth) (display ledger (depth + 1)) := by
  induction depth with
  | zero =>
      intro matcher text done
      cases done
  | succ depth ih =>
      intro matcher
      rw [display, display]
      by_cases resolved : (ledger.record matcher).resolved = true
      · rw [if_pos resolved, if_pos resolved]
        apply carries_bind
        · apply carries_map
          exact Operand.displays_carry _ _ _ _ ih (literal_carries ledger depth)
        · exact fun _ => carries_self _
      · rw [if_neg resolved, if_neg resolved]
        exact carries_self _

end AccessMatcher

end ScheduleShape
