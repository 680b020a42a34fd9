import ScheduleShape.Pattern.Guarded

set_option autoImplicit false

namespace ScheduleShape

variable [Affine]

mutual

def Pattern.tags : Pattern → List String
  | .value _ => []
  | .node _ children guard _ => Pattern.forestTags children ++ Guard.tagsOf guard

def Pattern.forestTags : List Pattern → List String
  | [] => []
  | pattern :: patterns => pattern.tags ++ Pattern.forestTags patterns

def Guard.tagsOf : Option Guard → List String
  | none => []
  | some guard => guard.tags

def Guard.tags : Guard → List String
  | .prevSibling sibling => sibling.tags
  | .nextSibling sibling => sibling.tags
  | .sibling sibling => sibling.tags
  | .descendant below => below.tags
  | .matching pattern => pattern.tags
  | .test _ => []
  | .negation guard => guard.tags
  | .all guards => Guard.allTags guards
  | .some guards => Guard.allTags guards
  | .noted tag guard => tag :: guard.tags

def Guard.allTags : List Guard → List String
  | [] => []
  | guard :: guards => guard.tags ++ Guard.allTags guards

end

abbrev Note := String × List Step

structure Watch where
  asked : List Nat → String
  passed : List Nat → String
  own : String → Bool
  own_asked : ∀ position, own (asked position) = true
  own_passed : ∀ position, own (passed position) = true

namespace Watch

def guard (watch : Watch) (position : List Nat) (guard : Guard) : Guard :=
  .noted (watch.asked position)
    (.all [guard, .noted (watch.passed position) (.test fun _ _ => .ok true)])

def heard (watch : Watch) (memory : Memory) : List Note :=
  memory.trace.filter fun note => watch.own note.1

section

variable (watch : Watch) (cursor : Cursor)

def askedAt (position : List Nat) : Note :=
  (watch.asked position, (cursor.descend position).path)

def passedAt (position : List Nat) : Note :=
  (watch.passed position, (cursor.descend position).path)

-- The guards at the first of the positions have been asked in turn and have passed, each at the node
-- that it is lined up with. Perhaps the next one has been asked too and has not passed. At the end
-- there is no next one.
def Tells (positions : List (List Nat)) (matched : Prop) (told : List Note) : Prop :=
  ∃ before after, positions = before ++ after ∧ (matched → after = [])
    ∧ (told = before.flatMap (fun position => [watch.askedAt cursor position, watch.passedAt cursor position])
      ∨ ∃ position later, after = position :: later
        ∧ told = before.flatMap (fun position => [watch.askedAt cursor position, watch.passedAt cursor position])
          ++ [watch.askedAt cursor position])

end

end Watch

def Pattern.watched (watch : Watch) (pattern : Pattern) : Pattern :=
  pattern.changeGuards watch.guard

end ScheduleShape
