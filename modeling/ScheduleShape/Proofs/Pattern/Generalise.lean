import ScheduleShape.Pattern.Generalise
import ScheduleShape.Pattern.Task
import ScheduleShape.Proofs.Pattern.Kin

set_option autoImplicit false

namespace ScheduleShape

section

variable [Affine]

section

variable {α : Type}

theorem shows_ok_iff (run : Run α) (answer : α) :
    Shows id run (.ok answer) ↔ ∀ memory, ∃ after, run memory = .ok answer after := by
  constructor
  · intro shown memory
    obtain ⟨result, after, ended, rfl⟩ := shows_ok id run answer shown memory
    exact ⟨after, ended⟩
  · intro given memory
    obtain ⟨after, ended⟩ := given memory
    rw [ended]
    rfl

theorem shown_once (view : α → Bool) (run : Run α) (answer other : Bool) (shown : Shows view run (.ok answer))
    (also : Shows view run (.ok other)) : answer = other :=
  Except.ok.inj ((shown .empty).symm.trans (also .empty))

theorem shows_asked (view : α → Bool) (question : Run Bool) (yes no : Run α) (answer further : Bool)
    (asked : Shows id question (.ok answer)) (first : answer = true → Shows view yes (.ok further))
    (second : Shows view no (.ok false)) :
    Shows view (do if ← question then yes else no) (.ok (answer && further)) := by
  apply shows_then id view question _ answer _ asked
  rintro result rfl
  cases result with
  | true => exact first rfl
  | false => exact second

end

namespace Pattern

def LinesUp (pattern : Pattern) (cursor : Cursor) (answer : Bool) : Prop :=
  ∀ undo, Shows Prod.fst (pattern.align cursor undo) (.ok answer)

def ForestLinesUp (patterns : List Pattern) (cursor : Cursor) (index : Nat) (answer : Bool) : Prop :=
  ∀ undo, Shows Prod.fst (alignForest patterns cursor index undo) (.ok answer)

structure NodeAnswers (test : KindTest) (children : List Pattern) (guard : Option Guard) (cursor : Cursor)
    (passed admitted fitting lined : Bool) : Prop where
  passes : test.passes cursor = .ok passed
  admits : Shows id (Guard.admits guard cursor) (.ok admitted)
  fits : fitsChildren children cursor = .ok fitting
  lines : fitting = true → ForestLinesUp children cursor 0 lined

end Pattern

theorem node_lines_up (test : KindTest) (children : List Pattern) (guard : Option Guard) (slot : Option String)
    (cursor : Cursor) (passed admitted fitting lined : Bool)
    (answers : Pattern.NodeAnswers test children guard cursor passed admitted fitting lined) :
    (Pattern.node test children guard slot).LinesUp cursor (passed && (admitted && (fitting && lined))) := by
  intro undo
  have refused : ∀ undo : Undo, Shows Prod.fst (pure (false, undo) : Run (Bool × Undo)) (.ok false) :=
    fun undo => shows_pure Prod.fst (false, undo)
  have passes : Shows id (liftM (test.passes cursor) : Run Bool) (.ok passed) := answers.passes ▸ shows_lift _
  have fits : Shows id (liftM (fitsChildren children cursor) : Run Bool) (.ok fitting) := answers.fits ▸ shows_lift _
  rw [Pattern.align]
  apply shows_asked Prod.fst _ _ _ _ _ passes _ (refused undo)
  intro _
  apply shows_asked Prod.fst _ _ _ _ _ answers.admits _ (refused undo)
  intro _
  apply shows_asked Prod.fst _ _ _ _ _ fits _ (refused undo)
  intro fitted
  apply shows_then Prod.fst Prod.fst _ _ lined _ (answers.lines fitted undo)
  rintro ⟨aligned, undo⟩ rfl
  cases aligned with
  | true => exact capture_shows slot cursor undo
  | false => exact refused undo

theorem forest_lines_up (pattern : Pattern) (patterns : List Pattern) (cursor : Cursor) (index : Nat)
    (answer further : Bool) (first : pattern.LinesUp (cursor.follow (.child index)) answer)
    (others : answer = true → Pattern.ForestLinesUp patterns cursor (index + 1) further) :
    Pattern.ForestLinesUp (pattern :: patterns) cursor index (answer && further) := by
  intro undo
  apply shows_then Prod.fst Prod.fst _ _ answer _ (first undo)
  rintro ⟨aligned, undo⟩ rfl
  cases aligned with
  | true => exact others rfl undo
  | false => exact shows_pure Prod.fst (false, undo)

theorem match_of_lines_up (pattern : Pattern) (cursor : Cursor) (answer : Bool)
    (lines : pattern.LinesUp cursor answer) : Shows id (pattern.matchAt cursor) (.ok answer) :=
  settle_shows _ _ (lines [])

theorem first_passes_sure (passes : Cursor → Run Bool) (cursors : List Cursor)
    (each : ∀ cursor ∈ cursors, ∃ answer, Shows id (passes cursor) (.ok answer)) :
    ∃ answer, Shows id (firstPasses passes cursors) (.ok answer)
      ∧ (answer = true ↔ ∃ cursor ∈ cursors, Shows id (passes cursor) (.ok true)) := by
  induction cursors with
  | nil => exact ⟨false, shows_pure id false, by simp⟩
  | cons cursor cursors ih =>
      obtain ⟨answer, first⟩ := each cursor List.mem_cons_self
      obtain ⟨further, others, means⟩ := ih fun other among => each other (List.mem_cons_of_mem cursor among)
      cases answer with
      | true =>
          refine ⟨true, ?_, iff_of_true rfl ⟨cursor, List.mem_cons_self, first⟩⟩
          apply shows_then id id _ _ true _ first
          rintro _ rfl
          exact shows_pure id true
      | false =>
          refine ⟨further, ?_, means.trans ?_⟩
          · apply shows_then id id _ _ false _ first
            rintro _ rfl
            exact others
          · have refused : ¬ Shows id (passes cursor) (.ok true) :=
              fun passed => Bool.false_ne_true (shown_once id _ _ _ first passed)
            simp [refused]

theorem enough_children (tree node : Tree) (address : List Nat) (here : tree.subtreeAt address = some node)
    (children : List Pattern) (fits : fitsChildren children (.inTree tree address) = .ok true) :
    0 + children.length ≤ node.children.length := by
  obtain ⟨fitting, decided, means⟩ := fits_children_decides tree node address here children
  have fitted : fitting = true := Except.ok.inj (decided.symm.trans fits)
  rcases means.mp fitted with rfl | exact
  · simp
  · simp [exact, Tree.arityAt, here]

theorem kin_sure (kin : Kin) (pattern : Pattern) (tree : Tree) (address : List Nat)
    (inside : (tree.subtreeAt address).isSome)
    (each : ∀ other, (tree.subtreeAt other).isSome → other ≠ [] →
      ∃ answer, pattern.LinesUp (.inTree tree other) answer) :
    ∃ answer, Shows id ((kin.guard pattern).holds (.inTree tree address)) (.ok answer)
      ∧ (answer = true ↔ ∃ other, kin.Relates tree address other ∧ pattern.LinesUp (.inTree tree other) true) := by
  obtain ⟨others, _, related, tried⟩ := kin_tried kin tree address inside
  have judged : ∀ other ∈ others, ∃ answer, pattern.LinesUp (.inTree tree other) answer := by
    intro other among
    obtain ⟨within, proper⟩ := relative_proper kin tree address other ((related other).mp among)
    exact each other within proper
  have accepted : ∀ other ∈ others, Shows id (pattern.matchAt (.inTree tree other)) (.ok true) ↔
      pattern.LinesUp (.inTree tree other) true := by
    intro other among
    obtain ⟨answer, lines⟩ := judged other among
    refine ⟨fun matched => ?_, match_of_lines_up pattern _ true⟩
    rwa [shown_once id _ _ _ matched (match_of_lines_up pattern _ answer lines)]
  obtain ⟨answer, shown, means⟩ := first_passes_sure pattern.matchAt (others.map (Cursor.inTree tree)) (by
    intro cursor among
    obtain ⟨other, here, rfl⟩ := List.mem_map.mp among
    obtain ⟨answer, lines⟩ := judged other here
    exact ⟨answer, match_of_lines_up pattern _ answer lines⟩)
  refine ⟨answer, (tried pattern).symm ▸ shown, means.trans ?_⟩
  constructor
  · rintro ⟨_, among, passed⟩
    obtain ⟨other, here, rfl⟩ := List.mem_map.mp among
    exact ⟨other, (related other).mp here, (accepted other here).mp passed⟩
  · rintro ⟨other, relative, lines⟩
    have here := (related other).mpr relative
    exact ⟨_, List.mem_map_of_mem here, (accepted other here).mpr lines⟩

section

variable {tree : Tree}

def Pattern.LinesUpIn (tree : Tree) (rooted : Prop) (pattern : Pattern) : Prop :=
  ∀ address, (tree.subtreeAt address).isSome → (address = [] → rooted) →
    ∃ answer, pattern.LinesUp (.inTree tree address) answer

theorem kin_guard_sure (kin : Kin) (pattern : Pattern) (lines : pattern.LinesUpIn tree False) (rooted : Prop) :
    (kin.guard pattern).SureIn tree rooted := by
  intro address inside _
  obtain ⟨answer, shown, _⟩ := kin_sure kin pattern tree address inside lines
  exact ⟨answer, (shows_ok_iff _ answer).mp shown⟩

theorem node_answers (test : KindTest) (children : List Pattern) (guard : Option Guard) (address : List Nat)
    (node : Tree) (here : tree.subtreeAt address = some node)
    (admitted : ∃ answer, Shows id (Guard.admits guard (.inTree tree address)) (.ok answer))
    (lined : 0 + children.length ≤ node.children.length →
      ∃ answer, Pattern.ForestLinesUp children (.inTree tree address) 0 answer) :
    ∃ passed admitted fitting lined,
      Pattern.NodeAnswers test children guard (.inTree tree address) passed admitted fitting lined := by
  obtain ⟨passed, passes, _⟩ := passes_decides tree node address here test
  obtain ⟨admitted, admits⟩ := admitted
  obtain ⟨fitting, fits, _⟩ := fits_children_decides tree node address here children
  cases fitting with
  | false => exact ⟨passed, admitted, false, false, passes, admits, fits, fun same => nomatch same⟩
  | true =>
      obtain ⟨answer, lines⟩ := lined (enough_children tree node address here children fits)
      exact ⟨passed, admitted, true, answer, passes, admits, fits, fun _ => lines⟩

mutual

theorem sure_lines_up (pattern : Pattern) (rooted : Prop) (sure : pattern.SureIn tree rooted) :
    pattern.LinesUpIn tree rooted := by
  intro address inside asked
  cases pattern with
  | value held => exact sure.elim
  | node test children guard slot =>
      obtain ⟨node, here⟩ := Option.isSome_iff_exists.mp inside
      obtain ⟨_, _, _, _, answers⟩ := node_answers test children guard address node here
        (any_sure guard rooted sure.2 address inside asked) (forest_sure children address 0 node sure.1 here)
      exact ⟨_, node_lines_up test children guard slot _ _ _ _ _ answers⟩

theorem forest_sure (patterns : List Pattern) (address : List Nat) (index : Nat) (node : Tree)
    (sure : Pattern.ForestSureIn tree patterns) (here : tree.subtreeAt address = some node)
    (fits : index + patterns.length ≤ node.children.length) :
    ∃ answer, Pattern.ForestLinesUp patterns (.inTree tree address) index answer := by
  cases patterns with
  | nil => exact ⟨true, fun undo => shows_pure Prod.fst (true, undo)⟩
  | cons pattern patterns =>
      rw [List.length_cons] at fits
      have child := (subtree_at_child tree node address index here).mpr (by omega)
      obtain ⟨answer, first⟩ := sure_lines_up pattern False sure.1 (address ++ [index]) child (by simp)
      obtain ⟨further, others⟩ := forest_sure patterns address (index + 1) node sure.2 here (by omega)
      rw [← Cursor.follow_in_tree] at first
      exact ⟨_, forest_lines_up pattern patterns _ index answer further first fun _ => others⟩

theorem any_sure (guard : Option Guard) (rooted : Prop) (sure : Guard.AnySureIn tree guard rooted)
    (address : List Nat) (inside : (tree.subtreeAt address).isSome) (asked : address = [] → rooted) :
    ∃ answer, Shows id (Guard.admits guard (.inTree tree address)) (.ok answer) := by
  cases guard with
  | none => exact ⟨true, shows_pure id true⟩
  | some guard =>
      obtain ⟨answer, given⟩ := guard_sure guard rooted sure address inside asked
      exact ⟨answer, (shows_ok_iff _ answer).mpr given⟩

theorem guard_sure (guard : Guard) (rooted : Prop) (sure : guard.SureWithin tree rooted) :
    guard.SureIn tree rooted := by
  cases guard with
  | prevSibling sibling => exact kin_guard_sure (.beside .before) sibling (sure_lines_up sibling False sure) rooted
  | nextSibling sibling => exact kin_guard_sure (.beside .after) sibling (sure_lines_up sibling False sure) rooted
  | sibling sibling => exact kin_guard_sure (.beside .either) sibling (sure_lines_up sibling False sure) rooted
  | descendant below => exact kin_guard_sure .below below (sure_lines_up below False sure) rooted
  | _ => exact sure

end

theorem kin_sure_within (kin : Kin) (pattern : Pattern) (rooted : Prop) :
    (kin.guard pattern).SureWithin tree rooted ↔ pattern.SureIn tree False := by
  cases kin with
  | beside siblings => cases siblings <;> rfl
  | below => rfl

theorem forest_sure_iff (patterns : List Pattern) :
    Pattern.ForestSureIn tree patterns ↔ ∀ pattern ∈ patterns, pattern.SureIn tree False := by
  induction patterns with
  | nil => simp [Pattern.ForestSureIn]
  | cons pattern patterns ih => rw [Pattern.ForestSureIn, ih, List.forall_mem_cons]

theorem loosening_keeps_sure (pattern looser : Pattern) (changed : pattern.LoosensTo looser) (rooted : Prop)
    (sure : pattern.SureIn tree rooted) : looser.SureIn tree rooted := by
  induction changed generalizing rooted with
  | anyKind => exact sure
  | openChildren => exact ⟨trivial, sure.2⟩
  | unguarded => exact ⟨sure.1, trivial⟩
  | uncaptured => exact sure
  | child test before after guard slot changed ih =>
      obtain ⟨children, guarded⟩ := sure
      rw [forest_sure_iff, List.forall_mem_append, List.forall_mem_cons] at children
      obtain ⟨earlier, here, later⟩ := children
      refine ⟨?_, guarded⟩
      rw [forest_sure_iff, List.forall_mem_append, List.forall_mem_cons]
      exact ⟨earlier, ih False here, later⟩
  | relative test children kin slot changed ih =>
      refine ⟨sure.1, (kin_sure_within kin _ rooted).mpr ?_⟩
      exact ih False ((kin_sure_within kin _ rooted).mp sure.2)
  | eitherSide test children siblings pattern slot =>
      exact ⟨sure.1, (kin_sure_within (.beside siblings) pattern rooted).mp sure.2⟩

theorem parts_of_yes (test : KindTest) (children : List Pattern) (guard : Option Guard) (slot : Option String)
    (rooted : Prop) (address : List Nat) (sure : (Pattern.node test children guard slot).SureIn tree rooted)
    (inside : (tree.subtreeAt address).isSome) (asked : address = [] → rooted)
    (yes : (Pattern.node test children guard slot).LinesUp (.inTree tree address) true) :
    Pattern.NodeAnswers test children guard (.inTree tree address) true true true true := by
  obtain ⟨node, here⟩ := Option.isSome_iff_exists.mp inside
  obtain ⟨passed, admitted, fitting, lined, answers⟩ := node_answers test children guard address node here
    (any_sure guard rooted sure.2 address inside asked) (forest_sure children address 0 node sure.1 here)
  have all := shown_once Prod.fst _ _ _ (yes []) (node_lines_up test children guard slot _ _ _ _ _ answers [])
  simp only [Bool.true_eq, Bool.and_eq_true] at all
  obtain ⟨rfl, rfl, rfl, rfl⟩ := all
  exact answers

theorem forest_parts_of_yes (pattern : Pattern) (patterns : List Pattern) (address : List Nat) (index : Nat)
    (node : Tree) (sure : Pattern.ForestSureIn tree (pattern :: patterns)) (here : tree.subtreeAt address = some node)
    (fits : index + (patterns.length + 1) ≤ node.children.length)
    (yes : Pattern.ForestLinesUp (pattern :: patterns) (.inTree tree address) index true) :
    pattern.LinesUp (.inTree tree (address ++ [index])) true
      ∧ Pattern.ForestLinesUp patterns (.inTree tree address) (index + 1) true := by
  have child := (subtree_at_child tree node address index here).mpr (by omega)
  obtain ⟨answer, first⟩ := sure_lines_up pattern False sure.1 (address ++ [index]) child (by simp)
  obtain ⟨further, others⟩ := forest_sure patterns address (index + 1) node sure.2 here (by omega)
  rw [← Cursor.follow_in_tree] at first ⊢
  have both := shown_once Prod.fst _ _ _ (yes [])
    (forest_lines_up pattern patterns _ index answer further first (fun _ => others) [])
  simp only [Bool.true_eq, Bool.and_eq_true] at both
  obtain ⟨rfl, rfl⟩ := both
  exact ⟨first, others⟩

theorem forest_loosened (pattern looser : Pattern) (before after : List Pattern) (address : List Nat) (index : Nat)
    (node : Tree) (sure : Pattern.ForestSureIn tree (before ++ pattern :: after))
    (here : tree.subtreeAt address = some node)
    (fits : index + (before ++ pattern :: after).length ≤ node.children.length)
    (keeps : ∀ other, (tree.subtreeAt other).isSome → other ≠ [] →
      pattern.LinesUp (.inTree tree other) true → looser.LinesUp (.inTree tree other) true)
    (yes : Pattern.ForestLinesUp (before ++ pattern :: after) (.inTree tree address) index true) :
    Pattern.ForestLinesUp (before ++ looser :: after) (.inTree tree address) index true := by
  induction before generalizing index with
  | nil =>
      rw [List.nil_append, List.length_cons] at fits
      have child := (subtree_at_child tree node address index here).mpr (by omega)
      obtain ⟨first, others⟩ := forest_parts_of_yes pattern after address index node sure here fits yes
      have kept := keeps (address ++ [index]) child (by simp) first
      rw [← Cursor.follow_in_tree] at kept
      exact forest_lines_up looser after _ index true true kept fun _ => others
  | cons other before ih =>
      rw [List.cons_append, List.length_cons] at fits
      obtain ⟨first, others⟩ := forest_parts_of_yes other _ address index node sure here fits yes
      have kept := ih (index + 1) sure.2 (by omega) others
      rw [← Cursor.follow_in_tree] at first
      exact forest_lines_up other _ _ index true true first fun _ => kept

theorem either_side_relates (siblings : Siblings) (address other : List Nat)
    (relative : (Kin.beside siblings).Relates tree address other) :
    (Kin.beside .either).Relates tree address other := by
  obtain ⟨inside, parent, index, place, here, there, has⟩ := relative
  refine ⟨inside, parent, index, place, here, there, ?_⟩
  cases siblings with
  | before => exact Nat.ne_of_lt has
  | after => exact Nat.ne_of_gt has
  | either => exact has

theorem kin_guard_loosened (kin wider : Kin) (pattern looser : Pattern) (address : List Nat)
    (sure : pattern.SureIn tree False) (also : looser.SureIn tree False) (inside : (tree.subtreeAt address).isSome)
    (more : ∀ other, kin.Relates tree address other → wider.Relates tree address other)
    (keeps : ∀ other, (tree.subtreeAt other).isSome → other ≠ [] →
      pattern.LinesUp (.inTree tree other) true → looser.LinesUp (.inTree tree other) true)
    (passed : Shows id ((kin.guard pattern).holds (.inTree tree address)) (.ok true)) :
    Shows id ((wider.guard looser).holds (.inTree tree address)) (.ok true) := by
  have lines := sure_lines_up pattern False sure
  have looserLines := sure_lines_up looser False also
  obtain ⟨answer, shown, means⟩ := kin_sure kin pattern tree address inside lines
  obtain ⟨wide, widely, wideMeans⟩ := kin_sure wider looser tree address inside looserLines
  obtain ⟨other, relative, yes⟩ := means.mp (shown_once id _ _ _ shown passed)
  obtain ⟨within, proper⟩ := relative_proper kin tree address other relative
  have found : wide = true := wideMeans.mpr ⟨other, more other relative, keeps other within proper yes⟩
  exact found ▸ widely

theorem loosening_keeps_yes (pattern looser : Pattern) (changed : pattern.LoosensTo looser) (rooted : Prop)
    (sure : pattern.SureIn tree rooted) (address : List Nat) (inside : (tree.subtreeAt address).isSome)
    (asked : address = [] → rooted) (yes : pattern.LinesUp (.inTree tree address) true) :
    looser.LinesUp (.inTree tree address) true := by
  induction changed generalizing rooted address with
  | anyKind test children guard slot =>
      have parts := parts_of_yes test children guard slot rooted address sure inside asked yes
      exact node_lines_up .any children guard slot _ true true true true { parts with passes := rfl }
  | openChildren test children guard slot =>
      have parts := parts_of_yes test children guard slot rooted address sure inside asked yes
      have opened : Pattern.ForestLinesUp [] (.inTree tree address) 0 true :=
        fun undo => shows_pure Prod.fst (true, undo)
      exact node_lines_up test [] guard slot _ true true true true { parts with fits := rfl, lines := fun _ => opened }
  | unguarded test children guard slot =>
      have parts := parts_of_yes test children guard slot rooted address sure inside asked yes
      exact node_lines_up test children none slot _ true true true true
        { parts with admits := shows_pure id true }
  | uncaptured test children guard slot =>
      have parts := parts_of_yes test children guard slot rooted address sure inside asked yes
      exact node_lines_up test children guard none _ true true true true parts
  | @child test before pattern looser after guard slot changed ih =>
      have parts := parts_of_yes test _ guard slot rooted address sure inside asked yes
      obtain ⟨node, here⟩ := Option.isSome_iff_exists.mp inside
      have nested := (forest_sure_iff _).mp sure.1 pattern (by simp)
      have enough := enough_children tree node address here _ parts.fits
      have lines := forest_loosened pattern looser before after address 0 node sure.1 here enough
        (fun other within proper => ih False nested other within (absurd · proper)) (parts.lines rfl)
      have fits : fitsChildren (before ++ looser :: after) (.inTree tree address) = .ok true := by
        rw [← parts.fits, fits_children_counts, fits_children_counts, List.length_append, List.length_append,
          List.length_cons, List.length_cons]
      exact node_lines_up test _ guard slot _ true true true true { parts with fits, lines := fun _ => lines }
  | @relative test children kin pattern looser slot changed ih =>
      have parts := parts_of_yes test _ _ slot rooted address sure inside asked yes
      have below := (kin_sure_within kin pattern rooted).mp sure.2
      have admits := kin_guard_loosened kin kin pattern looser address below
        (loosening_keeps_sure pattern looser changed False below) inside (fun _ relative => relative)
        (fun other within proper => ih False below other within (absurd · proper)) parts.admits
      exact node_lines_up test children (some (kin.guard looser)) slot _ true true true true { parts with admits }
  | eitherSide test children siblings pattern slot =>
      have parts := parts_of_yes test _ _ slot rooted address sure inside asked yes
      have below := (kin_sure_within (.beside siblings) pattern rooted).mp sure.2
      have admits := kin_guard_loosened (.beside siblings) (.beside .either) pattern pattern address below below
        inside (either_side_relates siblings address) (fun _ _ _ same => same) parts.admits
      exact node_lines_up test children (some (.sibling pattern)) slot _ true true true true { parts with admits }

theorem general_keeps (pattern wider : Pattern) (general : pattern.GeneralisesTo wider) (rooted : Prop)
    (sure : pattern.SureIn tree rooted) :
    wider.SureIn tree rooted ∧ ∀ address, (tree.subtreeAt address).isSome → (address = [] → rooted) →
      pattern.LinesUp (.inTree tree address) true → wider.LinesUp (.inTree tree address) true := by
  induction general with
  | refl => exact ⟨sure, fun _ _ _ yes => yes⟩
  | tail earlier changed ih =>
      obtain ⟨between, kept⟩ := ih
      refine ⟨loosening_keeps_sure _ _ changed rooted between, fun address inside asked yes => ?_⟩
      exact loosening_keeps_yes _ _ changed rooted between address inside asked (kept address inside asked yes)

theorem matches_among_more (pattern wider : Pattern) (cursors : List Cursor)
    (each : ∀ cursor ∈ cursors, ∃ answer wide, Shows id (pattern.matchAt cursor) (.ok answer)
      ∧ Shows id (wider.matchAt cursor) (.ok wide) ∧ (answer = true → wide = true)) (memory other : Memory) :
    ∃ found more after also, pattern.matchesAmong cursors memory = .ok found after
      ∧ wider.matchesAmong cursors other = .ok more also ∧ found.Sublist more := by
  induction cursors generalizing memory other with
  | nil => exact ⟨[], [], memory, other, rfl, rfl, List.Sublist.refl []⟩
  | cons cursor cursors ih =>
      obtain ⟨answer, wide, narrow, broad, kept⟩ := each cursor List.mem_cons_self
      obtain ⟨between, began⟩ := (shows_ok_iff _ answer).mp narrow memory
      obtain ⟨meanwhile, starts⟩ := (shows_ok_iff _ wide).mp broad other
      obtain ⟨found, more, after, also, searched, looked, listed⟩ :=
        ih (fun item among => each item (List.mem_cons_of_mem cursor among)) between meanwhile
      refine ⟨if answer then cursor :: found else found, if wide then cursor :: more else more, after, also, ?_, ?_, ?_⟩
      · rw [Pattern.matchesAmong, bind_of_ok _ _ memory between answer began,
          bind_of_ok _ _ between after found searched]
        rfl
      · rw [Pattern.matchesAmong, bind_of_ok _ _ other meanwhile wide starts,
          bind_of_ok _ _ meanwhile also more looked]
        rfl
      · cases answer with
        | true =>
            rw [kept rfl]
            exact listed.cons_cons cursor
        | false =>
            cases wide with
            | true => exact listed.cons cursor
            | false => exact listed

theorem sure_is_matching_at (pattern : Pattern) (rooted : Prop) (sure : pattern.SureIn tree rooted) (cursor : Cursor) :
    pattern.isMatching (.cursor cursor) = pattern.matchAt cursor := by
  cases pattern with
  | value held => exact sure.elim
  | node test children guard slot => exact Pattern.is_matching_reached test children guard slot _ cursor rfl

theorem tests_sure (guard : Guard) (rooted : Prop) (fromNode : guard.Throughout (fun _ => True) NodeTest.FromNode)
    (answers : guard.Throughout (fun _ => False) (NodeTest.AnswersIn tree rooted)) : guard.SureIn tree rooted := by
  intro address inside asked
  obtain ⟨answer, reached, _⟩ := guard_verdict_decides tree rooted guard address answers inside asked
  have shown := holds_shows guard (.inTree tree address) fromNode
  rw [reached] at shown
  exact ⟨answer, (shows_ok_iff _ answer).mp shown⟩

/-- A pattern that has been made more general matches wherever it did before, and a search for it finds what
it did before, in the same order, whatever is in the slots, if the guards are sure. -/
theorem generalising_keeps_matches (pattern wider : Pattern) (tree : Tree) (address : List Nat)
    (memory other : Memory) (inside : (tree.subtreeAt address).isSome) (general : pattern.GeneralisesTo wider)
    (sure : pattern.SureIn tree (address = [])) :
    (∃ answer wide after also, pattern.isMatching (.cursor (.inTree tree address)) memory = .ok answer after
        ∧ wider.isMatching (.cursor (.inTree tree address)) other = .ok wide also ∧ (answer = true → wide = true))
      ∧ ∃ found more after also, pattern.findAll (.cursor (.inTree tree address)) memory = .ok found after
        ∧ wider.findAll (.cursor (.inTree tree address)) other = .ok more also ∧ found.Sublist more := by
  obtain ⟨also, kept⟩ := general_keeps pattern wider general (address = []) sure
  have each : ∀ place, (tree.subtreeAt place).isSome → (place = [] → address = []) →
      ∃ answer wide, Shows id (pattern.matchAt (.inTree tree place)) (.ok answer)
        ∧ Shows id (wider.matchAt (.inTree tree place)) (.ok wide) ∧ (answer = true → wide = true) := by
    intro place within asked
    obtain ⟨answer, narrow⟩ := sure_lines_up pattern _ sure place within asked
    obtain ⟨wide, broad⟩ := sure_lines_up wider _ also place within asked
    refine ⟨answer, wide, match_of_lines_up pattern _ answer narrow, match_of_lines_up wider _ wide broad, ?_⟩
    rintro rfl
    exact shown_once Prod.fst _ _ _ (broad []) (kept place within asked narrow [])
  constructor
  · obtain ⟨answer, wide, narrow, broad, yes⟩ := each address inside id
    obtain ⟨after, ended⟩ := (shows_ok_iff _ answer).mp narrow memory
    obtain ⟨meanwhile, reached⟩ := (shows_ok_iff _ wide).mp broad other
    rw [sure_is_matching_at pattern _ sure, sure_is_matching_at wider _ also]
    exact ⟨answer, wide, after, meanwhile, ended, reached, yes⟩
  · obtain ⟨node, here⟩ := Option.isSome_iff_exists.mp inside
    rw [find_all_in_tree pattern tree node address here, find_all_in_tree wider tree node address here]
    apply matches_among_more pattern wider
    intro cursor among
    obtain ⟨rest, below, rfl⟩ := List.mem_map.mp among
    refine each (address ++ rest) ?_ fun top => (List.append_eq_nil_iff.mp top).1
    rcases List.mem_cons.mp below with rfl | below
    · simpa using inside
    · exact ((mem_below tree node address rest here).mp below).2

end

end

def filterAndMark : Pattern :=
  .node (.exactly (.group .sequence))
    [.node (.exactly (.carrier .filter)) [] (some (.sibling (.node .any [] none (some "mark")))) (some "last"),
      .node .any [] (some (.negation (.indexIs (.int 0)))) (some "second"),
      .node (.exactly (.carrier .mark)) [] none (some "last")]
    none none

theorem filter_and_mark_general (count : Int) : (filterThenMark count).GeneralisesTo filterAndMark := by
  have beside := relative_generalises (.exactly (.carrier .filter)) [] (.beside .either) (some "last")
    (.single (.anyKind (.exactly (.carrier .mark)) [] none (some "mark")))
  have filter := Relation.ReflTransGen.head (.eitherSide _ [] .after _ (some "last")) beside
  apply Relation.ReflTransGen.head (.uncaptured _ _ _ _)
  apply (child_generalises _ [] _ _ _ filter).trans
  apply child_generalises _ [_, _] [] _ _
  exact .head (.unguarded _ _ _ _) (.single (.openChildren _ _ _ _))

theorem filter_then_mark_sure (tree : Tree) (rooted : Prop) (count : Int) :
    (filterThenMark count).SureIn tree rooted :=
  ⟨⟨⟨trivial, trivial, trivial⟩,
    ⟨trivial, tests_sure (.negation (.indexIs (.int 0))) False (fun _ _ _ => rfl) (index_is_answers tree False _ id)⟩,
    ⟨⟨⟨trivial, trivial⟩, trivial⟩,
      tests_sure (.childCountIs (.int count)) False (fun _ _ _ => rfl) (child_count_is_answers tree False _)⟩,
    trivial⟩, trivial⟩

theorem generalising_keeps_matches_two_children :
    (filtersAndMark.subtreeAt []).isSome ∧ (filterThenMark 2).GeneralisesTo filterAndMark
      ∧ (filterThenMark 2).SureIn filtersAndMark ([] = ([] : List Nat))
      ∧ (∃ found more after also, (filterThenMark 2).findAll (.cursor (.inTree filtersAndMark [])) .empty = .ok found after
        ∧ filterAndMark.findAll (.cursor (.inTree filtersAndMark [])) .empty = .ok more also ∧ found.Sublist more)
      ∧ (∃ after, (filterThenMark 2).findAll (.cursor (.inTree filtersAndMark [])) .empty = .ok [] after)
      ∧ ∃ also, filterAndMark.findAll (.cursor (.inTree filtersAndMark [])) .empty
        = .ok [.inTree filtersAndMark [0]] also :=
  ⟨rfl, filter_and_mark_general 2, filter_then_mark_sure _ _ 2,
    (generalising_keeps_matches (filterThenMark 2) filterAndMark filtersAndMark [] .empty .empty rfl
      (filter_and_mark_general 2) (filter_then_mark_sure _ _ 2)).2, ⟨_, rfl⟩, _, rfl⟩

end ScheduleShape
