import Mathlib.Data.List.Sort
import ScheduleShape.Pattern.Twins
import ScheduleShape.Proofs.Ascending
import ScheduleShape.Proofs.Pattern.Muted
import ScheduleShape.Proofs.Pattern.Watch

set_option autoImplicit false

namespace ScheduleShape

section

variable [Affine]

theorem addresses_below_same (tree other : Tree) (alike : tree.SameShape other) :
    tree.addressesBelow = other.addressesBelow := by
  apply (Tree.addresses_ascending tree).of_cons.eq_of_mem_iff (Tree.addresses_ascending other).of_cons
  intro address
  have inside := congrArg Option.isSome (alike address)
  rw [Option.isSome_map, Option.isSome_map] at inside
  rw [Tree.mem_addresses_below, Tree.mem_addresses_below, inside]

namespace Twins

variable (twins : Twins)

def Places (cursor other : Cursor) : Prop :=
  ∃ address, (twins.first.subtreeAt address).isSome
    ∧ cursor = .inTree twins.first address ∧ other = .inTree twins.second address

theorem places_at (address : List Nat) (inside : (twins.first.subtreeAt address).isSome) :
    twins.Places (.inTree twins.first address) (.inTree twins.second address) :=
  ⟨address, inside, rfl, rfl⟩

theorem twin_nodes (address : List Nat) (inside : (twins.first.subtreeAt address).isSome) :
    ∃ node twin, twins.first.subtreeAt address = some node ∧ twins.second.subtreeAt address = some twin
      ∧ node.SameShape twin := by
  obtain ⟨node, here⟩ := Option.isSome_iff_exists.mp inside
  obtain ⟨twin, there, alike⟩ := Tree.same_shape_at twins.alike address node here
  exact ⟨node, twin, here, there, alike⟩

theorem twin_parents (parent : List Nat) (index : Nat) (inside : (twins.first.subtreeAt (parent ++ [index])).isSome) :
    ∃ node twin, twins.first.subtreeAt parent = some node ∧ twins.second.subtreeAt parent = some twin
      ∧ node.children.length = twin.children.length := by
  obtain ⟨node, above, _⟩ := parent_of_child twins.first parent index inside
  obtain ⟨twin, there, alike⟩ := Tree.same_shape_at twins.alike parent node above
  exact ⟨node, twin, above, there, (Tree.same_shape_outline alike).2⟩

section

variable {twins} {cursor other : Cursor} (same : twins.Places cursor other)

include same

theorem kind_same : cursor.kind = other.kind := by
  obtain ⟨address, inside, rfl, rfl⟩ := same
  obtain ⟨node, twin, here, there, alike⟩ := twins.twin_nodes address inside
  simp [here, there, (Tree.same_shape_outline alike).1]

theorem child_count_same : cursor.childCount = other.childCount := by
  obtain ⟨address, inside, rfl, rfl⟩ := same
  obtain ⟨node, twin, here, there, alike⟩ := twins.twin_nodes address inside
  simp [here, there, (Tree.same_shape_outline alike).2]

theorem child_same (count index : Nat) (counted : cursor.childCount = .ok count) (within : index < count) :
    twins.Places (cursor.follow (.child index)) (other.follow (.child index)) := by
  obtain ⟨address, inside, rfl, rfl⟩ := same
  obtain ⟨node, here⟩ := Option.isSome_iff_exists.mp inside
  simp only [Cursor.child_count_in_tree _ node address here, Except.ok.injEq] at counted
  subst counted
  refine ⟨address ++ [index], ?_, by simp, by simp⟩
  exact (subtree_at_child _ node address index here).mpr within

end

theorem places_listed {α : Type} (items : List α) (place : α → List Nat)
    (inside : ∀ item ∈ items, (twins.first.subtreeAt (place item)).isSome) :
    List.Forall₂ twins.Places (items.map fun item => .inTree twins.first (place item))
      (items.map fun item => .inTree twins.second (place item)) := by
  rw [List.forall₂_map_left_iff, List.forall₂_map_right_iff, List.forall₂_same]
  exact fun item among => twins.places_at (place item) (inside item among)

theorem children_listed (node : Tree) (parent : List Nat) (above : twins.first.subtreeAt parent = some node)
    (indices : List Nat) (within : ∀ index ∈ indices, index < node.children.length) :
    List.Forall₂ twins.Places (indices.map fun index => .inTree twins.first (parent ++ [index]))
      (indices.map fun index => .inTree twins.second (parent ++ [index])) :=
  twins.places_listed indices _ fun index among =>
    (subtree_at_child _ node parent index above).mpr (within index among)

section

variable {twins} {cursor other : Cursor} (same : twins.Places cursor other)

include same

theorem prev_siblings_same : Listed twins.Places cursor.prevSiblings other.prevSiblings := by
  obtain ⟨address, inside, rfl, rfl⟩ := same
  rcases List.eq_nil_or_concat address with rfl | ⟨parent, index, rfl⟩
  · exact .ok .nil
  · rw [List.concat_eq_append] at inside ⊢
    obtain ⟨node, twin, above, there, count⟩ := twins.twin_parents parent index inside
    rw [Cursor.prev_siblings_in_tree _ node parent index above, Cursor.prev_siblings_in_tree _ twin parent index there,
      ← count]
    apply Listed.ok
    apply twins.children_listed node parent above
    exact fun place among => List.mem_range.mp (List.mem_of_mem_take among)

theorem next_siblings_same : Listed twins.Places cursor.nextSiblings other.nextSiblings := by
  obtain ⟨address, inside, rfl, rfl⟩ := same
  rcases List.eq_nil_or_concat address with rfl | ⟨parent, index, rfl⟩
  · exact .ok .nil
  · rw [List.concat_eq_append] at inside ⊢
    obtain ⟨node, twin, above, there, count⟩ := twins.twin_parents parent index inside
    rw [Cursor.next_siblings_in_tree _ node parent index above, Cursor.next_siblings_in_tree _ twin parent index there,
      ← count]
    apply Listed.ok
    apply twins.children_listed node parent above
    exact fun place among => List.mem_range.mp (List.mem_of_mem_drop among)

theorem descendants_same : Listed twins.Places cursor.descendants other.descendants := by
  obtain ⟨address, inside, rfl, rfl⟩ := same
  obtain ⟨node, twin, here, there, alike⟩ := twins.twin_nodes address inside
  rw [Cursor.descendants_in_tree _ node address here, Cursor.descendants_in_tree _ twin address there,
    ← addresses_below_same node twin alike]
  apply Listed.ok
  apply twins.places_listed
  exact fun rest among => ((mem_below _ node address rest here).mp among).2

end

theorem put_alike (start otherStart memory otherMemory : Memory) (slot : String) (held otherHeld : Option Cursor)
    (alike : twins.Alike start otherStart memory otherMemory)
    (given : twins.Holds (start.slots slot) (otherStart.slots slot) held otherHeld) :
    twins.Alike start otherStart (memory.put slot held) (otherMemory.put slot otherHeld) where
  slots name := by
    by_cases named : name = slot
    · subst named
      simpa using given
    · simpa [named] using alike.slots name
  notes := alike.notes

theorem note_alike (start otherStart memory otherMemory : Memory) (tag : String) (path : List Step)
    (alike : twins.Alike start otherStart memory otherMemory) :
    twins.Alike start otherStart (memory.note tag path) (otherMemory.note tag path) where
  slots := alike.slots
  notes := by
    obtain ⟨told, first, second⟩ := alike.notes
    exact ⟨told ++ [(tag, path)], by simp [Memory.note, first], by simp [Memory.note, second]⟩

def simulation (start otherStart : Memory) : Simulation fun _ => false where
  places := twins.Places
  holds slot := twins.Holds (start.slots slot) (otherStart.slots slot)
  states := twins.Alike start otherStart
  tests := NodeTest.PayloadBlind
  kind := kind_same
  childCount := child_count_same
  child := child_same
  prevSiblings := prev_siblings_same
  nextSiblings := next_siblings_same
  descendants := descendants_same
  asked := by
    rintro ask _ _ memory otherMemory blind ⟨address, inside, rfl, rfl⟩ _
    exact blind twins address inside memory.slots otherMemory.slots
  captured := by
    rintro _ _ ⟨address, _, rfl, rfl⟩ slot
    exact .inr ⟨address, rfl, rfl⟩
  held alike slot := alike.slots slot
  put alike given := twins.put_alike start otherStart _ _ _ _ _ alike given
  noted := by
    rintro _ _ memory otherMemory ⟨address, _, rfl, rfl⟩ alike tag
    exact twins.note_alike start otherStart memory otherMemory tag (Cursor.stepsOf address) alike
  unheard _ _ _ unnoticed := nomatch unnoticed

theorem alike_start (memory other : Memory) : twins.Alike memory other memory other where
  slots _ := .inl ⟨rfl, rfl⟩
  notes := ⟨[], (List.append_nil _).symm, (List.append_nil _).symm⟩

theorem same_places (found others : List Cursor) (listed : List.Forall₂ twins.Places found others) :
    twins.SamePlaces found others := by
  induction listed with
  | nil => exact ⟨[], rfl, rfl⟩
  | cons same _ ih =>
      obtain ⟨address, _, rfl, rfl⟩ := same
      obtain ⟨addresses, rfl, rfl⟩ := ih
      exact ⟨address :: addresses, rfl, rfl⟩

structure MatchAlike (pattern : Pattern) (address : List Nat) (memory other : Memory) : Prop where
  matched : EndsAlike (twins.Alike memory other) Eq
    (pattern.isMatching (.cursor (.inTree twins.first address)) memory)
    (pattern.isMatching (.cursor (.inTree twins.second address)) other)
  found : EndsAlike (twins.Alike memory other) twins.SamePlaces
    (pattern.findAll (.cursor (.inTree twins.first address)) memory)
    (pattern.findAll (.cursor (.inTree twins.second address)) other)

theorem match_alike (pattern : Pattern) (address : List Nat) (memory other : Memory)
    (inside : (twins.first.subtreeAt address).isSome)
    (blind : pattern.Throughout (fun _ => True) NodeTest.PayloadBlind) :
    twins.MatchAlike pattern address memory other := by
  have same := twins.places_at address inside
  have matched := (twins.simulation memory other).is_matching_simulated pattern blind _ _ same
  have found := (twins.simulation memory other).find_all_simulated pattern blind _ _ same
  rw [muted_of_hearing] at matched found
  have start := twins.alike_start memory other
  exact ⟨matched memory other start, ends_alike_imp _ _ twins.same_places (found memory other start)⟩

end Twins

theorem constant_blind (answer : Value) :
    (Guard.constant answer).Throughout (fun _ => True) NodeTest.PayloadBlind :=
  fun _ _ _ _ _ => rfl

theorem raising_blind (reason : Value) :
    (Guard.raising reason).Throughout (fun _ => True) NodeTest.PayloadBlind :=
  fun _ _ _ _ _ => rfl

theorem index_is_blind (index : Value) :
    (Guard.indexIs index).Throughout (fun _ => True) NodeTest.PayloadBlind :=
  fun _ _ _ _ _ => rfl

theorem child_count_is_blind (count : Value) :
    (Guard.childCountIs count).Throughout (fun _ => True) NodeTest.PayloadBlind := by
  intro twins address inside _ _
  dsimp only
  rw [Twins.child_count_same (twins.places_at address inside)]

theorem same_shape_of_children (tree other : Tree) (kind : tree.kind = other.kind)
    (children : List.Forall₂ Tree.SameShape tree.children other.children) : tree.SameShape other := by
  refine Tree.same_shape_iff.mpr ⟨kind, children.length_eq, fun index child found => ?_⟩
  obtain ⟨within, rfl⟩ := List.getElem?_eq_some_iff.mp found
  have also : index < other.children.length := children.length_eq ▸ within
  exact ⟨other.children[index], List.getElem?_eq_getElem also, children.get within also⟩

structure HeardAlike (pattern spied : Pattern) (cursor : Cursor) (memory : Memory) : Prop where
  matched : EndsAlike SameSlots Eq (pattern.isMatching (.cursor cursor) memory) (spied.isMatching (.cursor cursor) memory)
  found : EndsAlike SameSlots Eq (pattern.findAll (.cursor cursor) memory) (spied.findAll (.cursor cursor) memory)

theorem heard_alike (spied : Pattern) (spies : String → Bool) {tests : NodeTest → Prop}
    (demanded : spied.Throughout (fun _ => True) tests) (cursor : Cursor) (memory : Memory) :
    HeardAlike (spied.muted spies) spied cursor memory where
  matched := (muting spies tests).is_matching_simulated spied demanded cursor cursor rfl memory memory rfl
  found := by
    have found := (muting spies tests).find_all_simulated spied demanded cursor cursor rfl
    refine ends_alike_imp _ _ ?_ (found memory memory rfl)
    exact fun found others listed => List.forall₂_eq_eq_eq ▸ listed

/-- Matching does not look at payloads. At one place of two trees of the same shape a pattern whose tests do
not look at payloads gives the same answer or fault, finds the same places and writes the same places into
the same slots. If some of its guards, at whatever level, are made to note when they are asked, they are
asked in the same order and at the same places; that they note it changes nothing else. -/
theorem matching_ignores_payloads (twins : Twins) (pattern spied : Pattern) (spies : String → Bool)
    (address : List Nat) (memory other : Memory) (inside : (twins.first.subtreeAt address).isSome)
    (blind : pattern.Throughout (fun _ => True) NodeTest.PayloadBlind) (muted : spied.muted spies = pattern) :
    twins.MatchAlike pattern address memory other ∧ twins.MatchAlike spied address memory other
      ∧ ∀ cursor start, HeardAlike pattern spied cursor start := by
  subst muted
  have also := (throughout_muted spies spied).mp blind
  exact ⟨twins.match_alike _ address memory other inside blind, twins.match_alike spied address memory other inside also,
    heard_alike spied spies also⟩

end

def filtersAndMarkTwins : Twins where
  first := filtersAndMark
  second := .carrier .domain (.value (.text "other")) [.group .sequence
    [.carrier .filter (.value .null) [.leaf], .carrier .filter (.value (.text "end")) [.leaf],
      .carrier .mark (.value (.int 7)) [.leaf]]]
  alike := by
    have leaf : List.Forall₂ Tree.SameShape [.leaf] [.leaf] := .cons (Tree.same_shape_refl .leaf) .nil
    refine same_shape_of_children _ _ rfl (.cons (same_shape_of_children _ _ rfl ?_) .nil)
    exact .cons (same_shape_of_children _ _ rfl leaf)
      (.cons (same_shape_of_children _ _ rfl leaf) (.cons (same_shape_of_children _ _ rfl leaf) .nil))

def spiedSequence : Pattern :=
  .node (.exactly (.group .sequence))
    [.node (.exactly (.carrier .filter)) []
        (some (.noted "kin" (.nextSibling (.node (.exactly (.carrier .mark)) []
          (some (.noted "seen" (.noted "single" (.childCountIs (.int 1))))) (some "mark"))))) none,
      .node .any [] none none,
      .node (.exactly (.carrier .mark)) [.node .any [] (some (.noted "below" (.constant (.bool true)))) none]
        (some (.noted "pair" (.childCountIs (.int 2)))) none]
    (some (.noted "seen" (.noted "triple" (.childCountIs (.int 3))))) none

theorem seen_sequence_blind : seenSequence.Throughout (fun _ => True) NodeTest.PayloadBlind :=
  ⟨⟨⟨trivial, trivial, child_count_is_blind _⟩, ⟨trivial, trivial⟩,
    ⟨⟨⟨trivial, constant_blind _⟩, trivial⟩, child_count_is_blind _⟩, trivial⟩, child_count_is_blind _⟩

theorem matching_ignores_payloads_seen_sequence :
    (filtersAndMarkTwins.first.subtreeAt [0]).isSome
      ∧ seenSequence.Throughout (fun _ => True) NodeTest.PayloadBlind
      ∧ spiedSequence.muted (· != "seen") = seenSequence
      ∧ filtersAndMarkTwins.MatchAlike seenSequence [0] .empty .empty
      ∧ filtersAndMarkTwins.MatchAlike spiedSequence [0] .empty .empty
      ∧ (∀ cursor start, HeardAlike seenSequence spiedSequence cursor start)
      ∧ (stateOf (spiedSequence.isMatching (.cursor (.inTree filtersAndMarkTwins.second [0])) .empty)).trace
        = [("seen", Cursor.stepsOf [0]), ("triple", Cursor.stepsOf [0]), ("kin", Cursor.stepsOf [0, 0]),
          ("seen", Cursor.stepsOf [0, 2]), ("single", Cursor.stepsOf [0, 2]), ("pair", Cursor.stepsOf [0, 2])] := by
  have muted : spiedSequence.muted (· != "seen") = seenSequence := rfl
  obtain ⟨plain, spied, heard⟩ := matching_ignores_payloads filtersAndMarkTwins seenSequence spiedSequence
    (· != "seen") [0] .empty .empty rfl seen_sequence_blind muted
  exact ⟨rfl, seen_sequence_blind, muted, plain, spied, heard, rfl⟩

end ScheduleShape
