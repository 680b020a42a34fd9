import ScheduleShape.Proofs.Pattern.Inherited
import ScheduleShape.Proofs.Pattern.Simulation

set_option autoImplicit false

namespace ScheduleShape

variable [Affine]

section

variable (deaf : String → Bool) {values : Value → Prop} {tests : NodeTest → Prop}

mutual

theorem throughout_muted (pattern : Pattern) :
    (pattern.muted deaf).Throughout values tests ↔ pattern.Throughout values tests := by
  cases pattern with
  | value held => rfl
  | node test children guard slot =>
      exact and_congr (forest_throughout_muted children) (any_throughout_muted guard)

theorem forest_throughout_muted (patterns : List Pattern) :
    Pattern.ForestThroughout values tests (Pattern.forestMuted deaf patterns)
      ↔ Pattern.ForestThroughout values tests patterns := by
  cases patterns with
  | nil => rfl
  | cons pattern patterns => exact and_congr (throughout_muted pattern) (forest_throughout_muted patterns)

theorem any_throughout_muted (guard : Option Guard) :
    Guard.ThroughoutAny values tests (Guard.anyMuted deaf guard) ↔ Guard.ThroughoutAny values tests guard := by
  cases guard with
  | none => rfl
  | some guard => exact guard_throughout_muted guard

theorem guard_throughout_muted (guard : Guard) :
    (guard.muted deaf).Throughout values tests ↔ guard.Throughout values tests := by
  cases guard with
  | prevSibling sibling => exact throughout_muted sibling
  | nextSibling sibling => exact throughout_muted sibling
  | sibling sibling => exact throughout_muted sibling
  | descendant below => exact throughout_muted below
  | matching pattern => exact throughout_muted pattern
  | test ask => rfl
  | negation guard => exact guard_throughout_muted guard
  | all guards => exact all_throughout_muted guards
  | some guards => exact all_throughout_muted guards
  | noted tag guard =>
      rw [Guard.muted]
      cases deaf tag with
      | true => exact guard_throughout_muted guard
      | false => exact guard_throughout_muted guard

theorem all_throughout_muted (guards : List Guard) :
    Guard.ThroughoutAll values tests (Guard.allMuted deaf guards) ↔ Guard.ThroughoutAll values tests guards := by
  cases guards with
  | nil => rfl
  | cons guard guards => exact and_congr (guard_throughout_muted guard) (all_throughout_muted guards)

end

end

mutual

theorem muted_of_hearing (pattern : Pattern) : pattern.muted (fun _ => false) = pattern := by
  cases pattern with
  | value held => rfl
  | node test children guard slot =>
      rw [Pattern.muted, forest_muted_of_hearing children, any_muted_of_hearing guard]

theorem forest_muted_of_hearing (patterns : List Pattern) :
    Pattern.forestMuted (fun _ => false) patterns = patterns := by
  cases patterns with
  | nil => rfl
  | cons pattern patterns =>
      rw [Pattern.forestMuted, muted_of_hearing pattern, forest_muted_of_hearing patterns]

theorem any_muted_of_hearing (guard : Option Guard) : Guard.anyMuted (fun _ => false) guard = guard := by
  cases guard with
  | none => rfl
  | some guard => exact congrArg some (guard_muted_of_hearing guard)

theorem guard_muted_of_hearing (guard : Guard) : guard.muted (fun _ => false) = guard := by
  cases guard with
  | prevSibling sibling => exact congrArg Guard.prevSibling (muted_of_hearing sibling)
  | nextSibling sibling => exact congrArg Guard.nextSibling (muted_of_hearing sibling)
  | sibling sibling => exact congrArg Guard.sibling (muted_of_hearing sibling)
  | descendant below => exact congrArg Guard.descendant (muted_of_hearing below)
  | matching pattern => exact congrArg Guard.matching (muted_of_hearing pattern)
  | test ask => rfl
  | negation guard => exact congrArg Guard.negation (guard_muted_of_hearing guard)
  | all guards => exact congrArg Guard.all (all_muted_of_hearing guards)
  | some guards => exact congrArg Guard.some (all_muted_of_hearing guards)
  | noted tag guard => exact congrArg (Guard.noted tag) (guard_muted_of_hearing guard)

theorem all_muted_of_hearing (guards : List Guard) : Guard.allMuted (fun _ => false) guards = guards := by
  cases guards with
  | nil => rfl
  | cons guard guards => rw [Guard.allMuted, guard_muted_of_hearing guard, all_muted_of_hearing guards]

end

theorem listed_self (cursors : Except Fault (List Cursor)) : Listed Eq cursors cursors := by
  cases cursors with
  | error fault => exact .error fault
  | ok found => exact .ok (List.forall₂_refl found)

def muting (deaf : String → Bool) (tests : NodeTest → Prop) : Simulation deaf where
  places := Eq
  holds _ := Eq
  states := SameSlots
  tests := tests
  kind same := congrArg Cursor.kind same
  childCount same := congrArg Cursor.childCount same
  child same _ index _ _ := congrArg (Cursor.follow · (.child index)) same
  prevSiblings same := same ▸ listed_self _
  nextSiblings same := same ▸ listed_self _
  descendants same := same ▸ listed_self _
  asked := by
    rintro ask cursor _ ⟨slots, trace⟩ ⟨_, otherTrace⟩ _ rfl rfl
    rfl
  captured same _ := congrArg some same
  held alike slot := congrFun alike slot
  put := by
    rintro ⟨slots, trace⟩ ⟨_, otherTrace⟩ slot held _ rfl rfl
    rfl
  noted _ alike _ := alike
  unheard alike _ _ _ := alike

end ScheduleShape
