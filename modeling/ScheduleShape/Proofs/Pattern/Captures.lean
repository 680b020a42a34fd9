import ScheduleShape.Proofs.Pattern.Frame

set_option autoImplicit false

namespace ScheduleShape

section

theorem both_of_and (first second : Except Fault Bool) (both : (first <&&> second) = .ok true) :
    first = .ok true ∧ second = .ok true := by
  cases first with
  | error fault => cases both
  | ok answer =>
      cases answer with
      | false => cases both
      | true => exact ⟨rfl, both⟩

variable [Affine] {α : Type}

def Captures (slot : String) (cursor : Cursor) (entries : List (List Nat × Pattern))
    (run : Run (Bool × Undo)) : Prop :=
  ∀ memory undo after, run memory = .ok (true, undo) after →
    after.slots slot = ((lastCarrier? slot entries).map fun entry => cursor.descend entry.1).or
      (memory.slots slot)

section

variable {slot : String} {cursor : Cursor} {entries others : List (List Nat × Pattern)}

theorem captures_stop (undo : Undo) : Captures slot cursor entries (pure (false, undo)) := by
  intro memory undo after ended
  cases ended

theorem captures_none (undo : Undo) : Captures slot cursor [] (pure (true, undo)) := by
  intro memory undo after ended
  cases ended
  rfl

theorem captures_ite (answer : Bool) (run : Run (Bool × Undo)) (undo : Undo)
    (captured : Captures slot cursor entries run) :
    Captures slot cursor entries (if answer then run else pure (false, undo)) := by
  cases answer with
  | true => exact captured
  | false => exact captures_stop undo

theorem captures_after (run : Run α) (next : α → Run (Bool × Undo)) (kept : Keeps slot run)
    (captured : ∀ result, Captures slot cursor entries (next result)) :
    Captures slot cursor entries (run >>= next) := by
  intro memory undo after ended
  obtain ⟨result, between, began, goesOn⟩ := bind_ok run next memory after (true, undo) ended
  have same := kept memory
  rw [began] at same
  rw [captured result between undo after goesOn]
  exact congrArg _ same

theorem captures_bind (run : Run (Bool × Undo)) (next : Bool × Undo → Run (Bool × Undo))
    (first : Captures slot cursor entries run)
    (second : ∀ undo, Captures slot cursor others (next (true, undo)))
    (stopped : ∀ undo, next (false, undo) = pure (false, undo)) :
    Captures slot cursor (entries ++ others) (run >>= next) := by
  intro memory undo after ended
  obtain ⟨⟨aligned, earlier⟩, between, began, goesOn⟩ :=
    bind_ok run next memory after (true, undo) ended
  cases aligned with
  | false =>
      rw [stopped] at goesOn
      cases goesOn
  | true =>
      rw [second earlier between undo after goesOn, first memory earlier between began,
        last_carrier_append, Option.map_or, Option.or_assoc]

theorem captures_below (index : Nat) (run : Run (Bool × Undo))
    (captured : Captures slot (cursor.follow (.child index)) entries run) :
    Captures slot cursor (entries.map fun entry => (index :: entry.1, entry.2)) run := by
  intro memory undo after ended
  rw [captured memory undo after ended, last_carrier_below, Option.map_map]
  rfl

theorem captures_here (test : KindTest) (children : List Pattern) (guard : Option Guard)
    (name : Option String) (undo : Undo) :
    Captures slot cursor [([], .node test children guard name)]
      (do pure (true, ← capture name cursor undo)) := by
  intro memory later after ended
  cases name with
  | none =>
      cases ended
      rfl
  | some name =>
      cases ended
      by_cases named : slot = name
      · subst named
        simp [lastCarrier?, Pattern.slot?]
      · simp [lastCarrier?, Pattern.slot?, named, Ne.symm named]

end

section

variable (slot : String)

mutual

theorem align_captures (pattern : Pattern) (cursor : Cursor) (undo : Undo)
    (free : slot ∉ pattern.guardSlots) :
    Captures slot cursor pattern.postorder (pattern.align cursor undo) := by
  cases pattern with
  | value held =>
      intro memory undo after ended
      cases ended
  | node test children guard name =>
      rw [Pattern.guardSlots, List.mem_append, not_or] at free
      rw [Pattern.align, Pattern.postorder]
      apply captures_after _ _ (keeps_lift slot _)
      intro passed
      apply captures_ite
      apply captures_after _ _ (admits_keeps slot guard cursor free.2)
      intro admitted
      apply captures_ite
      apply captures_after _ _ (keeps_lift slot _)
      intro fits
      apply captures_ite
      apply captures_bind
      · exact align_forest_captures children cursor 0 undo free.1
      · exact captures_here test children guard name
      · exact fun _ => rfl

theorem align_forest_captures (patterns : List Pattern) (cursor : Cursor) (index : Nat) (undo : Undo)
    (free : slot ∉ Pattern.forestGuardSlots patterns) :
    Captures slot cursor (Pattern.forestPostorder index patterns)
      (Pattern.alignForest patterns cursor index undo) := by
  cases patterns with
  | nil => exact captures_none undo
  | cons pattern patterns =>
      rw [Pattern.forestGuardSlots, List.mem_append, not_or] at free
      rw [Pattern.alignForest, Pattern.forestPostorder]
      apply captures_bind
      · exact captures_below index _ (align_captures pattern _ undo free.1)
      · exact fun undo => align_forest_captures patterns cursor (index + 1) undo free.2
      · exact fun _ => rfl

end

end

mutual

theorem verdict_parts (pattern : Pattern) (cursor : Cursor) (matched : pattern.verdict cursor = .ok true) :
    ∀ entry ∈ pattern.postorder, entry.2.verdict (cursor.descend entry.1) = .ok true := by
  cases pattern with
  | value held => cases matched
  | node test children guard slot =>
      intro entry among
      rw [Pattern.postorder, List.mem_append, List.mem_singleton] at among
      rcases among with below | rfl
      · have guarded := (both_of_and _ _ matched).2
        have fitted := (both_of_and _ _ guarded).2
        have lined := (both_of_and _ _ fitted).2
        exact forest_verdict_parts children cursor 0 lined entry below
      · exact matched

theorem forest_verdict_parts (patterns : List Pattern) (cursor : Cursor) (index : Nat)
    (matched : Pattern.forestVerdict patterns cursor index = .ok true) :
    ∀ entry ∈ Pattern.forestPostorder index patterns,
      entry.2.verdict (cursor.descend entry.1) = .ok true := by
  cases patterns with
  | nil =>
      intro entry among
      cases among
  | cons pattern patterns =>
      intro entry among
      obtain ⟨first, others⟩ := both_of_and _ _ matched
      rw [Pattern.forestPostorder, List.mem_append] at among
      rcases among with here | later
      · obtain ⟨entry, among, rfl⟩ := List.mem_map.mp here
        exact verdict_parts pattern (cursor.follow (.child index)) first entry among
      · exact forest_verdict_parts patterns cursor (index + 1) others entry later

end

section

variable (values : Value → Prop) (tests : NodeTest → Prop)

mutual

theorem throughout_parts (pattern : Pattern) (throughout : pattern.Throughout values tests) :
    ∀ entry ∈ pattern.postorder, entry.2.Throughout values tests := by
  cases pattern with
  | value held =>
      intro entry among
      rw [Pattern.postorder, List.mem_singleton] at among
      subst among
      exact throughout
  | node test children guard slot =>
      intro entry among
      rw [Pattern.postorder, List.mem_append, List.mem_singleton] at among
      rcases among with below | rfl
      · exact forest_throughout_parts children 0 throughout.1 entry below
      · exact throughout

theorem forest_throughout_parts (patterns : List Pattern) (index : Nat)
    (throughout : Pattern.ForestThroughout values tests patterns) :
    ∀ entry ∈ Pattern.forestPostorder index patterns, entry.2.Throughout values tests := by
  cases patterns with
  | nil =>
      intro entry among
      cases among
  | cons pattern patterns =>
      intro entry among
      rw [Pattern.forestPostorder, List.mem_append] at among
      rcases among with here | later
      · obtain ⟨entry, among, rfl⟩ := List.mem_map.mp here
        exact throughout_parts pattern throughout.1 entry among
      · exact forest_throughout_parts patterns (index + 1) throughout.2 entry later

end

end

theorem kind_of_verdict (kind : Kind) (children : List Pattern) (guard : Option Guard)
    (slot : Option String) (cursor : Cursor)
    (matched : (Pattern.node (.exactly kind) children guard slot).verdict cursor = .ok true) :
    cursor.kind = .ok kind := by
  have passed : cursor.kind.map (· == kind) = .ok true := (both_of_and _ _ matched).1
  cases found : cursor.kind with
  | error fault =>
      rw [found] at passed
      cases passed
  | ok here =>
      rw [found] at passed
      rw [beq_iff_eq.mp (Except.ok.inj passed)]

theorem settle_true (lined : Run (Bool × Undo)) (memory after : Memory)
    (matched : settle lined memory = .ok true after) :
    ∃ undo, lined memory = .ok (true, undo) after := by
  obtain ⟨⟨aligned, undo⟩, between, began, goesOn⟩ := bind_ok lined _ memory after true matched
  cases aligned with
  | true =>
      cases goesOn
      exact ⟨undo, began⟩
  | false => cases goesOn

/-- After a match that succeeds, a slot that only the pattern's own nodes carry holds the node that
was lined up with the last of these. The pattern below it matches there whatever the slots hold. -/
theorem is_matching_captures (pattern : Pattern) (cursor : Cursor) (memory after : Memory)
    (slot : String) (fromNode : pattern.FromNode)
    (matched : pattern.isMatching (.cursor cursor) memory = .ok true after)
    (own : slot ∈ pattern.ownSlots) (free : slot ∉ pattern.guardSlots) :
    ∃ position test children guard held,
      lastCarrier? slot pattern.postorder
          = some (position, .node test children guard (some slot))
        ∧ after.slots slot = some held
        ∧ held.root = cursor.root ∧ held.path = cursor.path ++ Cursor.stepsOf position
        ∧ (∀ memory, ∃ after, (Pattern.node test children guard (some slot)).isMatching
            (.cursor held) memory = .ok true after)
        ∧ ∀ kind, test = .exactly kind → held.kind = .ok kind := by
  obtain ⟨⟨position, part⟩, last, among, carries⟩ := last_carrier_of_own slot pattern own
  have settled : pattern.matchAt cursor memory = .ok true after := by
    cases pattern with
    | value held => cases matched
    | node test children guard name => exact matched
  obtain ⟨undo, lined⟩ := settle_true _ memory after settled
  have captured := align_captures slot pattern cursor [] free memory undo after lined
  rw [last] at captured
  have judged := shows_of_ok id _ _ (match_at_shows pattern cursor fromNode) memory after true settled
  have again := verdict_parts pattern cursor judged (position, part) among
  have partFromNode : part.FromNode := throughout_parts _ _ pattern fromNode (position, part) among
  cases part with
  | value held => cases carries
  | node test children guard name =>
      cases carries
      refine ⟨position, test, children, guard, cursor.descend position, last, captured,
        cursor.descend_root position, cursor.descend_path position, ?_, ?_⟩
      · intro memory
        have shown := match_at_shows _ (cursor.descend position) partFromNode
        rw [again] at shown
        obtain ⟨answer, after, ended, rfl⟩ := shows_ok id _ true shown memory
        exact ⟨after, ended⟩
      · rintro kind rfl
        exact kind_of_verdict kind children guard (some slot) _ again

end

theorem is_matching_captures_filter_then_mark :
    ∃ after, (filterThenMark 1).FromNode
      ∧ (filterThenMark 1).isMatching (.cursor (.inTree filtersAndMark [0])) .empty = .ok true after
      ∧ "last" ∈ (filterThenMark 1).ownSlots ∧ "last" ∉ (filterThenMark 1).guardSlots
      ∧ after.slots "last" = some (.inTree filtersAndMark [0, 2])
      ∧ ∃ position test children guard held,
        lastCarrier? "last" (filterThenMark 1).postorder
            = some (position, .node test children guard (some "last"))
          ∧ after.slots "last" = some held
          ∧ held.root = .tree filtersAndMark
          ∧ held.path = Cursor.stepsOf [0] ++ Cursor.stepsOf position
          ∧ (∀ memory, ∃ after, (Pattern.node test children guard (some "last")).isMatching
              (.cursor held) memory = .ok true after)
          ∧ ∀ kind, test = .exactly kind → held.kind = .ok kind := by
  refine ⟨_, filter_then_mark_from_node 1, rfl, by decide, by decide, ?_, ?_⟩
  · exact congrArg some (Cursor.eq_of_place rfl rfl)
  · exact is_matching_captures (filterThenMark 1) (.inTree filtersAndMark [0]) .empty _ "last"
      (filter_then_mark_from_node 1) rfl (by decide) (by decide)

end ScheduleShape
