import ScheduleShape.Constraint.Basic
import ScheduleShape.Constraint.Candidates

set_option autoImplicit false

namespace ScheduleShape

variable [Affine]

def Constraint.confirms (other constraint : Constraint) : Bool :=
  match constraint.agreesWith (.constraint other) with
  | .ok answer => answer
  | .error _ => false

def agreed (others : List Constraint) : List Label → List Constraint → List Constraint
  | _, [] => []
  | reported, constraint :: constraints =>
      if constraint.label ∈ reported then agreed others reported constraints
      else if others.any (·.confirms constraint) then
        constraint :: agreed others (constraint.label :: reported) constraints
      else agreed others reported constraints

def ConstraintList.meets (first second : ConstraintList) : Bool :=
  match first.compare second with
  | .ok agreed => !agreed.isEmpty
  | .error _ => false

def Comparable (others constraints : List Constraint) : Prop :=
  ∀ constraint ∈ constraints, ∀ other ∈ others,
    ∃ answer, constraint.agreesWith (.constraint other) = .ok answer

def MeetAt (bindings others : List (Label × Expression)) (label : Label) : Prop :=
  ∃ (position other : Nat) (first second : Expression), bindings[position]? = some (label, first)
    ∧ others[other]? = some (label, second) ∧ Affine.Same first second

def AgreeThroughout (bindings others : List (Label × Expression)) (label : Label) : Prop :=
  ∀ (position other : Nat) (first second : Expression), bindings[position]? = some (label, first) →
    others[other]? = some (label, second) → Affine.Same first second

def DifferThroughout (bindings others : List (Label × Expression)) (label : Label) : Prop :=
  ∀ (position other : Nat) (first second : Expression), bindings[position]? = some (label, first) →
    others[other]? = some (label, second) → Affine.plainEqual first second = .ok false

structure Yields (access : Access) (expressions : List Expression) : Prop where
  single : Affine.isSingleValued access = .ok true
  counted : expressions.length = Affine.arity access
  outputs : ∃ function, Affine.fromMap access = .ok function ∧ ∀ (position : Nat) (expression : Expression),
    expressions[position]? = some expression → Affine.output function position = .ok expression

namespace AccessMatcher

structure Applies (matcher : AccessMatcher) (access : Access) (expressions : List Expression) :
    Prop where
  arity : Affine.arity access = matcher.size
  yields : Yields access expressions
  repeats : ∀ label,
    AgreeThroughout (matcher.labels.zip expressions) (matcher.labels.zip expressions) label

def verdict? (matcher : AccessMatcher) (access : Access) : Option Verdict :=
  if Affine.arity access = matcher.size then (matcher.judge access).toOption else none

def candidate? (matcher : AccessMatcher) (access : Access) : Option ConstraintList :=
  (matcher.verdict? access).bind Verdict.candidate?

def candidates (matcher : AccessMatcher) (accesses : List Access) : List ConstraintList :=
  accesses.filterMap matcher.candidate?

def rejections (matcher : AccessMatcher) (accesses : List Access) : List Event :=
  accesses.filterMap fun access => (matcher.verdict? access).bind Verdict.reason?

structure Binds (matcher : AccessMatcher) (expressions : List Expression) (list : ConstraintList) : Prop where
  arity : list.arity = matcher.size
  expressed : expressions.length = matcher.size
  size : list.members.length = matcher.size
  bound (position : Nat) (label : Label) (here : matcher.labels[position]? = some label) :
    ∃ expression, expressions[position]? = some expression
      ∧ list.members[position]? = some (.constraint { label, term := .expression expression })

inductive Selects (matcher : AccessMatcher) : List Access → List ConstraintList → Prop where
  | nil : Selects matcher [] []
  | taken {access : Access} {accesses : List Access} {expressions : List Expression} {list : ConstraintList}
      {lists : List ConstraintList} (applies : matcher.Applies access expressions)
      (binds : matcher.Binds expressions list) (later : Selects matcher accesses lists) :
      Selects matcher (access :: accesses) (list :: lists)
  | passed {access : Access} {accesses : List Access} {lists : List ConstraintList}
      (unfit : ∀ expressions, ¬ matcher.Applies access expressions) (later : Selects matcher accesses lists) :
      Selects matcher (access :: accesses) lists

end AccessMatcher

namespace ConstraintList

def Holds (list : ConstraintList) (label : Label) (expression : Expression) : Prop :=
  ∃ constraint bound, .constraint constraint ∈ list.members ∧ constraint.label = label
    ∧ constraint.term = .expression bound ∧ Affine.Same bound expression

structure SameContent (first second : ConstraintList) : Prop where
  arity : first.arity = second.arity
  held : ∀ label expression, first.Holds label expression ↔ second.Holds label expression

inductive Derived : ConstraintList → Prop where
  | empty : Derived .empty
  | candidate (matcher : AccessMatcher) (relation : Relation) (told after : List Event)
      (lists : List ConstraintList) (drawn : matcher.draw relation told = .ok lists after)
      (list : ConstraintList) (among : list ∈ lists) : Derived list
  | last (matcher : AccessMatcher) (relation : Relation) (told after : List Event) (list : ConstraintList)
      (drawn : matcher.drawLast relation told = .ok list after) : Derived list
  | comparison (first second agreed : ConstraintList) (one : Derived first) (two : Derived second)
      (compared : first.compare second = .ok agreed) : Derived agreed

end ConstraintList

structure Constraint.Meets (constraint other : Constraint) : Prop where
  label : constraint.label = other.label
  term : constraint.term.agrees other.term = .ok true

def Backs (members : List Operand) (constraint : Constraint) : Prop :=
  ∃ other, .constraint other ∈ members ∧ constraint.Meets other

structure FirstBacked (members others : List Operand) (place : Nat) (constraint : Constraint) : Prop where
  here : members[place]? = some (.constraint constraint)
  backed : Backs others constraint
  earliest : ∀ earlier < place, ∀ other, members[earlier]? = some (.constraint other) →
    other.label = constraint.label → ¬ Backs others other

namespace ConstraintList

def Expressed (list : ConstraintList) : Prop :=
  ∀ member ∈ list.members, ∃ label expression mark,
    member = .constraint { label, term := .expression expression, mark }

def Overlaps (first second : ConstraintList) : Prop :=
  ∃ constraint, .constraint constraint ∈ first.members ∧ Backs second.members constraint

structure Keeps (first second kept : ConstraintList) : Prop where
  arity : kept.arity = first.arity
  labels : ∃ constraints, kept.constraints = .ok constraints
    ∧ (constraints.map Constraint.label).Nodup
    ∧ ∀ label, label ∈ constraints.map Constraint.label ↔ ∃ constraint,
      .constraint constraint ∈ first.members ∧ constraint.label = label ∧ Backs second.members constraint
  places : ∃ entries : List (Nat × Constraint), kept.members = entries.map (.constraint ·.2)
    ∧ (entries.map Prod.fst).Pairwise (· < ·)
    ∧ ∀ place constraint, (place, constraint) ∈ entries ↔
      FirstBacked first.members second.members place constraint

end ConstraintList

end ScheduleShape
