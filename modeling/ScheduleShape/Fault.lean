import ScheduleShape.Value

set_option autoImplicit false

namespace ScheduleShape

inductive Fault where
  | noField (typeName field : String)
  | noKind (className : String)
  | noLength (typeName : String)
  | notSubscriptable (typeName : String)
  | notIterable (typeName : String)
  | notAddable (leftType rightType : String)
  | indexOutOfRange (container : String)
  | indexTooWide
  | noKey (key : Value)
  | noEquality
  | childrenNotList (typeName : String)
  | childNotTree (typeName : String)
  | unsupportedSchedule (kind : String)
  | wildcardHasNoSchedule
  | cursorOutOfRange
  | rootHasNoParent
  | rootCannotMove
  | rootHasNoIndex
  | childrenNeedIndex
  | notChildPattern (builder typeName : String)
  | notOneChild (builder : String) (given : Nat)
  | childNeeded (builder : String)
  | noChildTaken (builder : String)
  | noArgumentTaken (builder : String) (given : Nat)
  | notPattern (typeName : String)
  | notMatchable (className : String)
  | raised (value : Value)
  | noLabels
  | notLabel (value : Value)
  | notConstraintLabel (value : Value)
  | constraintCount (expected given : Nat)
  | constraintLabel (given expected : String)
  | notRelation (className : String)
  | notExpression (className : String)
  | notSingle (className : String)
  | notAccessMatcher (typeName : String)
  | nestedTooDeep
  | affineError (text : String)

def affineClassName (typeName : String) : String := "islpy._isl." ++ typeName

def Fault.wrongArgument (typeName parameter className : String) : String :=
  "plain_is_equal(): incompatible function arguments. The following argument types are supported:\n"
    ++ "    1. plain_is_equal(self, " ++ parameter ++ ") -> bool\n\nInvoked with types: "
    ++ affineClassName typeName ++ ", " ++ className

def Fault.message : Fault → String
  | noField typeName field => "'" ++ typeName ++ "' object has no attribute '" ++ field ++ "'"
  | noKind className => "<class '" ++ className ++ "'>"
  | noLength typeName => "object of type '" ++ typeName ++ "' has no len()"
  | notSubscriptable typeName => "'" ++ typeName ++ "' object is not subscriptable"
  | notIterable typeName => "'" ++ typeName ++ "' object is not iterable"
  | notAddable leftType rightType =>
      "unsupported operand type(s) for +: '" ++ leftType ++ "' and '" ++ rightType ++ "'"
  | indexOutOfRange container => container ++ " index out of range"
  | indexTooWide => "cannot fit 'int' into an index-sized integer"
  | noKey key => key.literal
  | noEquality => "equality not available; use manual downcast or try plain_is_equal"
  | childrenNotList typeName => "expected: list, actual: " ++ typeName
  | childNotTree typeName =>
      "expected: typing.List[abc.ScheduleTree.node], actual: typing.List[" ++ typeName ++ "]"
  | unsupportedSchedule kind => "unsupported isl schedule node type: " ++ kind
  | wildcardHasNoSchedule => "the wildcard node type has no isl counterpart"
  | cursorOutOfRange => "cursor is out of range"
  | rootHasNoParent => "cursor does not have a parent"
  | rootCannotMove => "cannot move root cursor"
  | rootHasNoIndex => "root cursor has no index"
  | childrenNeedIndex => "must index into children"
  | notChildPattern builder typeName => builder ++ ": expected child matchers, got " ++ typeName
  | notOneChild builder given =>
      builder ++ ": expected exactly one child matcher, got " ++ Value.decimal given
  | childNeeded builder => builder ++ ": expected at least one child matcher"
  | noChildTaken builder => builder ++ ": does not take child matchers"
  | noArgumentTaken builder given =>
      builder ++ "() takes 0 positional arguments but " ++ Value.decimal given
        ++ (if given = 1 then " was given" else " were given")
  | notPattern typeName => "got <class '" ++ typeName ++ "'>"
  | notMatchable className => "cannot match against a <class '" ++ className ++ "'>"
  | raised value => value.display
  | noLabels => "a relation matcher needs at least one label"
  | notLabel value => "labels must be single identifier characters, got " ++ value.literal
  | notConstraintLabel value => "invalid constraint label: " ++ value.literal
  | constraintCount expected given =>
      "expected " ++ Value.decimal expected ++ " constraints, got " ++ Value.decimal given
  | constraintLabel given expected =>
      "constraint for " ++ Text.quoted given ++ " given for label " ++ Text.quoted expected
  | notRelation className => "expected UnionMap, got <class '" ++ className ++ "'>"
  | notExpression className => Fault.wrongArgument "PwAff" "pwaff2: PwAff | Aff" className
  | notSingle className => Fault.wrongArgument "Map" "map2: Map | BasicMap" className
  | notAccessMatcher typeName => "expected a RelationMatcher, got " ++ typeName
  | nestedTooDeep => "maximum recursion depth exceeded while getting the str of an object"
  | affineError text => text

def Fault.isConstruction : Fault → Bool
  | notChildPattern .. | notOneChild .. | childNeeded _ | noChildTaken _ => true
  | noLabels | notLabel _ => true
  | _ => false

@[simp]
theorem ok_bind {α β : Type} (result : α) (next : α → Except Fault β) :
    ((.ok result : Except Fault α) >>= next) = next result := rfl

@[simp]
theorem error_bind {α β : Type} (fault : Fault) (next : α → Except Fault β) :
    ((.error fault : Except Fault α) >>= next) = .error fault := rfl

@[simp]
theorem ok_map {α β : Type} (change : α → β) (result : α) :
    change <$> (.ok result : Except Fault α) = .ok (change result) := rfl

@[simp]
theorem pure_ok {α : Type} (result : α) : (pure result : Except Fault α) = .ok result := rfl

@[simp]
theorem except_bind_ok {α β : Type} (result : α) (next : α → Except Fault β) :
    (Except.ok result).bind next = next result := rfl

@[simp]
theorem except_map_ok {α β : Type} (change : α → β) (result : α) :
    (Except.ok result : Except Fault α).map change = .ok (change result) := rfl

theorem both_ok_iff {α β : Type} (first : Except Fault α) (next : α → Except Fault β) (result : β) :
    (first >>= next) = .ok result ↔ ∃ between, first = .ok between ∧ next between = .ok result := by
  cases first with
  | error fault =>
      constructor
      · intro ended
        cases ended
      · rintro ⟨_, began, _⟩
        cases began
  | ok between =>
      constructor
      · intro ended
        exact ⟨between, rfl, ended⟩
      · rintro ⟨_, began, ended⟩
        cases began
        exact ended

theorem both_answer {α β : Type} (first : Except Fault α) (next : α → Except Fault β)
    (begins : ∃ between, first = .ok between)
    (ends : ∀ between, first = .ok between → ∃ result, next between = .ok result) :
    ∃ result, (first >>= next) = .ok result := by
  obtain ⟨between, rfl⟩ := begins
  exact ends between rfl

theorem one_fails_iff {α β : Type} (first : Except Fault α) (next : α → Except Fault β)
    (fault : Fault) : (first >>= next) = .error fault ↔
      first = .error fault ∨ ∃ between, first = .ok between ∧ next between = .error fault := by
  cases first with
  | error other =>
      constructor
      · intro failed
        cases failed
        exact .inl rfl
      · rintro (same | ⟨_, began, _⟩)
        · cases same
          rfl
        · cases began
  | ok between =>
      constructor
      · intro failed
        exact .inr ⟨between, rfl, failed⟩
      · rintro (same | ⟨_, began, failed⟩)
        · cases same
        · cases began
          exact failed

theorem fails_before_pure {α β : Type} (first : Except Fault α) (next : α → β) (fault : Fault)
    (failed : (first >>= fun between => pure (next between)) = .error fault) :
    first = .error fault := by
  rcases (one_fails_iff _ _ _).mp failed with began | ⟨_, _, ended⟩
  · exact began
  · cases ended

end ScheduleShape
