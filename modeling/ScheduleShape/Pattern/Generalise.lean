import Mathlib.Logic.Relation
import ScheduleShape.Pattern.Kin

set_option autoImplicit false

namespace ScheduleShape

variable [Affine]

inductive Pattern.LoosensTo : Pattern → Pattern → Prop where
  | anyKind (test : KindTest) (children : List Pattern) (guard : Option Guard) (slot : Option String) :
      LoosensTo (.node test children guard slot) (.node .any children guard slot)
  | openChildren (test : KindTest) (children : List Pattern) (guard : Option Guard) (slot : Option String) :
      LoosensTo (.node test children guard slot) (.node test [] guard slot)
  | unguarded (test : KindTest) (children : List Pattern) (guard : Option Guard) (slot : Option String) :
      LoosensTo (.node test children guard slot) (.node test children none slot)
  | uncaptured (test : KindTest) (children : List Pattern) (guard : Option Guard) (slot : Option String) :
      LoosensTo (.node test children guard slot) (.node test children guard none)
  | child (test : KindTest) (before : List Pattern) {pattern looser : Pattern} (after : List Pattern)
      (guard : Option Guard) (slot : Option String) (changed : LoosensTo pattern looser) :
      LoosensTo (.node test (before ++ pattern :: after) guard slot) (.node test (before ++ looser :: after) guard slot)
  | relative (test : KindTest) (children : List Pattern) (kin : Kin) {pattern looser : Pattern}
      (slot : Option String) (changed : LoosensTo pattern looser) :
      LoosensTo (.node test children (some (kin.guard pattern)) slot)
        (.node test children (some (kin.guard looser)) slot)
  | eitherSide (test : KindTest) (children : List Pattern) (siblings : Siblings) (pattern : Pattern)
      (slot : Option String) :
      LoosensTo (.node test children (some ((Kin.beside siblings).guard pattern)) slot)
        (.node test children (some (.sibling pattern)) slot)

def Pattern.GeneralisesTo : Pattern → Pattern → Prop :=
  Relation.ReflTransGen Pattern.LoosensTo

theorem child_generalises (test : KindTest) (before : List Pattern) {pattern wider : Pattern} (after : List Pattern)
    (guard : Option Guard) (slot : Option String) (general : pattern.GeneralisesTo wider) :
    (Pattern.node test (before ++ pattern :: after) guard slot).GeneralisesTo
      (.node test (before ++ wider :: after) guard slot) :=
  general.lift (fun held => Pattern.node test (before ++ held :: after) guard slot)
    fun _ _ changed => .child test before after guard slot changed

theorem relative_generalises (test : KindTest) (children : List Pattern) (kin : Kin) {pattern wider : Pattern}
    (slot : Option String) (general : pattern.GeneralisesTo wider) :
    (Pattern.node test children (some (kin.guard pattern)) slot).GeneralisesTo
      (.node test children (some (kin.guard wider)) slot) :=
  general.lift (fun held => Pattern.node test children (some (kin.guard held)) slot)
    fun _ _ changed => .relative test children kin slot changed

def Guard.SureIn (tree : Tree) (rooted : Prop) (guard : Guard) : Prop :=
  ∀ address, (tree.subtreeAt address).isSome → (address = [] → rooted) →
    ∃ answer, ∀ memory, ∃ after, guard.holds (.inTree tree address) memory = .ok answer after

mutual

def Pattern.SureIn (tree : Tree) : Pattern → Prop → Prop
  | .value _, _ => False
  | .node _ children guard _, rooted =>
      Pattern.ForestSureIn tree children ∧ Guard.AnySureIn tree guard rooted

def Pattern.ForestSureIn (tree : Tree) : List Pattern → Prop
  | [] => True
  | pattern :: patterns => pattern.SureIn tree False ∧ Pattern.ForestSureIn tree patterns

def Guard.AnySureIn (tree : Tree) : Option Guard → Prop → Prop
  | none, _ => True
  | some guard, rooted => guard.SureWithin tree rooted

def Guard.SureWithin (tree : Tree) : Guard → Prop → Prop
  | .prevSibling sibling, _ => sibling.SureIn tree False
  | .nextSibling sibling, _ => sibling.SureIn tree False
  | .sibling sibling, _ => sibling.SureIn tree False
  | .descendant below, _ => below.SureIn tree False
  | guard, rooted => guard.SureIn tree rooted

end

end ScheduleShape
