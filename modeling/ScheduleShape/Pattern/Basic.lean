import ScheduleShape.Cursor.Basic
import ScheduleShape.Fault
import ScheduleShape.Tree.Basic

set_option autoImplicit false

namespace ScheduleShape

variable [Affine]

abbrev Slots := String → Option Cursor

abbrev NodeTest := Cursor → Slots → Except Fault Bool

mutual

inductive Pattern where
  | node (test : KindTest) (children : List Pattern) (guard : Option Guard) (slot : Option String)
  -- a plain value in the place of a pattern, which fails when it is used
  | value (held : Value)

inductive Guard where
  | prevSibling (sibling : Pattern)
  | nextSibling (sibling : Pattern)
  | sibling (sibling : Pattern)
  | descendant (below : Pattern)
  | matching (pattern : Pattern)
  | test (ask : NodeTest)
  | negation (guard : Guard)
  | all (guards : List Guard)
  | some (guards : List Guard)
  -- notes the node under a tag before it asks the guard
  | noted (tag : String) (guard : Guard)

end

mutual

def Pattern.foreign? : Pattern → Option Value
  | .node _ children _ _ => Pattern.forestForeign? children
  | .value held => some held

def Pattern.forestForeign? : List Pattern → Option Value
  | [] => none
  | pattern :: patterns => pattern.foreign?.or (Pattern.forestForeign? patterns)

end

namespace Guard

def constant (answer : Value) : Guard :=
  .test fun _ _ => .ok answer.truthy

def indexIs (index : Value) : Guard :=
  .test fun cursor _ => cursor.index.map fun position =>
    match position with
    | .some position => (Value.int position).same index
    | none => Value.null.same index

def payloadIs (payload : Value) : Guard :=
  .test fun cursor _ => cursor.payload.bind fun held => held.same (.value payload)

def childCountIs (count : Value) : Guard :=
  .test fun cursor _ => cursor.childCount.map fun (found : Nat) => (Value.int found).same count

def raising (reason : Value) : Guard :=
  .test fun _ _ => .error (.raised reason)

end Guard

mutual

def Pattern.Throughout (values : Value → Prop) (tests : NodeTest → Prop) : Pattern → Prop
  | .value held => values held
  | .node _ children guard _ =>
      Pattern.ForestThroughout values tests children ∧ Guard.ThroughoutAny values tests guard

def Pattern.ForestThroughout (values : Value → Prop) (tests : NodeTest → Prop) :
    List Pattern → Prop
  | [] => True
  | pattern :: patterns =>
      pattern.Throughout values tests ∧ Pattern.ForestThroughout values tests patterns

def Guard.ThroughoutAny (values : Value → Prop) (tests : NodeTest → Prop) : Option Guard → Prop
  | none => True
  | some guard => guard.Throughout values tests

def Guard.Throughout (values : Value → Prop) (tests : NodeTest → Prop) : Guard → Prop
  | .prevSibling sibling => sibling.Throughout values tests
  | .nextSibling sibling => sibling.Throughout values tests
  | .sibling sibling => sibling.Throughout values tests
  | .descendant below => below.Throughout values tests
  | .matching pattern => pattern.Throughout values tests
  | .test ask => tests ask
  | .negation guard => guard.Throughout values tests
  | .all guards => Guard.ThroughoutAll values tests guards
  | .some guards => Guard.ThroughoutAll values tests guards
  | .noted _ guard => guard.Throughout values tests

def Guard.ThroughoutAll (values : Value → Prop) (tests : NodeTest → Prop) : List Guard → Prop
  | [] => True
  | guard :: guards => guard.Throughout values tests ∧ Guard.ThroughoutAll values tests guards

end

def NodeTest.FromNode (ask : NodeTest) : Prop :=
  ∀ cursor slots other, ask cursor slots = ask cursor other

def NodeTest.AnswersIn (tree : Tree) (rooted : Prop) (ask : NodeTest) : Prop :=
  ∀ address, (tree.subtreeAt address).isSome → (address = [] → rooted) →
    ∃ answer, ∀ slots, ask (.inTree tree address) slots = .ok answer

namespace Pattern

def FromNode (pattern : Pattern) : Prop :=
  pattern.Throughout (fun _ => True) NodeTest.FromNode

def AnswersIn (tree : Tree) (rooted : Prop) (pattern : Pattern) : Prop :=
  pattern.Throughout (fun _ => False) (NodeTest.AnswersIn tree rooted)

end Pattern

namespace Pattern

def guardMark (guard : Option Guard) : String :=
  if guard.isSome then " [guard]" else ""

def slotMark (slot : Option String) : String :=
  if slot.isSome then " [capture]" else ""

mutual

def lines (indent : String) : Pattern → List String
  | node test children guard slot =>
      (indent ++ test.word ++ guardMark guard ++ slotMark slot)
        :: forestLines (indent ++ indentStep) children
  | value _ => []

def forestLines (indent : String) : List Pattern → List String
  | [] => []
  | pattern :: patterns => lines indent pattern ++ forestLines indent patterns

end

def render (pattern : Pattern) : Except Fault String :=
  match pattern with
  | value held => .ok held.display
  | node test children guard slot =>
      match forestForeign? children with
      | some held => .error (.noField held.typeName "node_type")
      | none => .ok ("\n".intercalate ((node test children guard slot).lines ""))

end Pattern

end ScheduleShape
