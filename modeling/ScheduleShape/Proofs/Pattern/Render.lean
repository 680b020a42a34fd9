import ScheduleShape.Pattern.Look
import ScheduleShape.Proofs.Tree.Render

set_option autoImplicit false

namespace ScheduleShape

namespace KindTest

theorem word_lower (test : KindTest) : ∀ c ∈ test.word.toList, c.isLower = true := by
  cases test with
  | any => exact List.all_eq_true.mp (by decide)
  | exactly kind => exact kind.word_lower

theorem of_word_word (test : KindTest) : ofWord? test.word = some test := by
  cases test with
  | any => rfl
  | exactly kind =>
      have other : kind.word ≠ KindTest.any.word := by
        intro same
        have read := Kind.of_word_word kind
        rw [same] at read
        exact absurd read (by simp [show Kind.ofWord? KindTest.any.word = none by decide])
      calc
        ofWord? kind.word = (Kind.ofWord? kind.word).map .exactly := if_neg other
        _ = some (.exactly kind) := by rw [Kind.of_word_word, Option.map_some]

theorem word_nonempty (test : KindTest) : test.word ≠ "" := by
  intro empty
  have read := of_word_word test
  rw [empty] at read
  exact absurd read (by simp [show ofWord? "" = none by decide])

end KindTest

namespace Pattern

def marks (guarded captured : Bool) : String :=
  (if guarded then " [guard]" else "") ++ (if captured then " [capture]" else "")

theorem marks_plain (guarded captured : Bool) : '\n' ∉ (marks guarded captured).toList := by
  cases guarded <;> cases captured <;> decide

theorem marks_stop (guarded captured : Bool) :
    (marks guarded captured).toList = [] ∨ (marks guarded captured).toList.head? = some ' ' := by
  cases guarded <;> cases captured <;> decide

theorem marks_told (guarded captured : Bool) :
    " [guard]".toList.isPrefixOf (marks guarded captured).toList = guarded
      ∧ " [capture]".toList.isSuffixOf (marks guarded captured).toList = captured := by
  cases guarded <;> cases captured <;> decide

end Pattern

section

variable [Affine]

namespace Pattern

theorem marks_of_node (guard : Option Guard) (slot : Option String) :
    guardMark guard ++ slotMark slot = marks guard.isSome slot.isSome := rfl

theorem to_blocks_map (patterns : List Pattern) : toBlocks patterns = patterns.map toBlock := by
  induction patterns with
  | nil => rfl
  | cons pattern patterns ih => rw [toBlocks, ih, List.map_cons]

theorem to_block_parts (pattern : Pattern) : pattern.toBlock.parts = pattern.children.map toBlock := by
  cases pattern with
  | node test children guard slot => exact to_blocks_map children
  | value held => rfl

theorem block_at_position (pattern : Pattern) (address : List Nat) :
    pattern.toBlock.blockAt address = (pattern.partAt address).map toBlock := by
  induction address generalizing pattern with
  | nil => rfl
  | cons index address ih =>
      rw [Text.Block.blockAt, to_block_parts, List.getElem?_map, partAt]
      cases pattern.children[index]? with
      | none => rfl
      | some child => exact ih child

def Whole (pattern : Pattern) : Prop := pattern.foreign? = none

theorem forest_whole_cons (pattern : Pattern) (patterns : List Pattern)
    (whole : forestForeign? (pattern :: patterns) = none) :
    pattern.Whole ∧ forestForeign? patterns = none :=
  Option.or_eq_none_iff.mp whole

mutual

theorem lines_of_block (pattern : Pattern) (indent : String) (whole : pattern.Whole) :
    pattern.toBlock.lines indent = pattern.lines indent := by
  cases pattern with
  | node test children guard slot =>
      rw [toBlock, Text.Block.lines, lines, lines_of_blocks children _ whole]
      simp only [String.append_assoc]
  | value held => cases whole

theorem lines_of_blocks (patterns : List Pattern) (indent : String) (whole : forestForeign? patterns = none) :
    Text.Block.forestLines indent (toBlocks patterns) = forestLines indent patterns := by
  cases patterns with
  | nil => rfl
  | cons pattern patterns =>
      obtain ⟨here, later⟩ := forest_whole_cons pattern patterns whole
      rw [toBlocks, Text.Block.forestLines, forestLines, lines_of_block pattern indent here,
        lines_of_blocks patterns indent later]

end

mutual

theorem to_block_legible (pattern : Pattern) (whole : pattern.Whole) : pattern.toBlock.AllLegible := by
  cases pattern with
  | node test children guard slot =>
      refine ⟨Text.legible_of_word _ _ test.word_nonempty test.word_lower ?_, to_blocks_legible children whole⟩
      rw [marks_of_node]
      exact marks_plain _ _
  | value held => cases whole

theorem to_blocks_legible (patterns : List Pattern) (whole : forestForeign? patterns = none) :
    Text.Block.ForestLegible (toBlocks patterns) := by
  cases patterns with
  | nil => trivial
  | cons pattern patterns =>
      obtain ⟨here, later⟩ := forest_whole_cons pattern patterns whole
      exact ⟨to_block_legible pattern here, to_blocks_legible patterns later⟩

end

theorem forest_whole_at (patterns : List Pattern) (whole : forestForeign? patterns = none) (index : Nat)
    (part : Pattern) (standing : patterns[index]? = some part) : part.Whole := by
  induction patterns generalizing index with
  | nil => cases standing
  | cons pattern patterns ih =>
      obtain ⟨here, later⟩ := forest_whole_cons pattern patterns whole
      cases index with
      | zero =>
          cases standing
          exact here
      | succ index => exact ih later index standing

theorem part_whole (pattern : Pattern) (whole : pattern.Whole) (address : List Nat) (part : Pattern)
    (found : pattern.partAt address = some part) : part.Whole := by
  induction address generalizing pattern with
  | nil =>
      cases found
      exact whole
  | cons index address ih =>
      rw [partAt] at found
      obtain ⟨child, standing, further⟩ := Option.bind_eq_some_iff.mp found
      cases pattern with
      | node test children guard slot => exact ih child (forest_whole_at children whole index child standing) further
      | value held => cases whole

def Look.outline (look : Look) : String × Nat := (look.test.word ++ marks look.guarded look.captured, look.count)

theorem look_of_whole (pattern : Pattern) (whole : pattern.Whole) :
    ∃ look, pattern.look? = some look ∧ pattern.toBlock.outline = look.outline
      ∧ lookOf? pattern.toBlock = some look := by
  cases pattern with
  | node test children guard slot =>
      obtain ⟨word, rest⟩ := Text.cut_word test.word (marks guard.isSome slot.isSome) ' ' (by decide)
        test.word_lower (marks_stop _ _)
      obtain ⟨guarded, captured⟩ := marks_told guard.isSome slot.isSome
      refine ⟨⟨test, guard.isSome, slot.isSome, children.length⟩, rfl, ?_, ?_⟩
      · rw [toBlock, Text.Block.outline, Text.Block.heading, Text.Block.parts, to_blocks_map, List.length_map]
        rfl
      · rw [toBlock, lookOf?, Text.Block.heading, Text.Block.parts, marks_of_node, word, rest, guarded,
          captured, KindTest.of_word_word, to_blocks_map, List.length_map]
        rfl
  | value held => cases whole

theorem looks_at_position (pattern : Pattern) (whole : pattern.Whole) (address : List Nat) :
    ((pattern.partAt address).map toBlock).bind lookOf? = (pattern.partAt address).bind look? := by
  cases found : pattern.partAt address with
  | none => rfl
  | some part =>
      obtain ⟨look, looks, _, read⟩ := look_of_whole part (part_whole pattern whole address part found)
      rw [Option.map_some, Option.bind_some, Option.bind_some, read, looks]

theorem every_part_looks (pattern : Pattern) (whole : pattern.Whole) (address : List Nat) :
    (pattern.partAt address).map look? = ((pattern.partAt address).bind look?).map some := by
  cases found : pattern.partAt address with
  | none => rfl
  | some part =>
      obtain ⟨look, looks, _, _⟩ := look_of_whole part (part_whole pattern whole address part found)
      rw [Option.map_some, Option.bind_some, looks]
      rfl

theorem outlines_alike (pattern other : Pattern) (whole : pattern.Whole) (otherWhole : other.Whole)
    (alike : pattern.LooksLike other) (address : List Nat) :
    ((pattern.partAt address).map toBlock).map Text.Block.outline
      = ((other.partAt address).map toBlock).map Text.Block.outline := by
  have here := alike address
  cases found : pattern.partAt address with
  | none =>
      rw [found] at here
      rw [Option.map_eq_none_iff.mp here.symm]
  | some part =>
      rw [found] at here
      obtain ⟨twin, there, same⟩ := Option.map_eq_some_iff.mp here.symm
      obtain ⟨look, looks, outline, _⟩ := look_of_whole part (part_whole pattern whole address part found)
      obtain ⟨look', looks', outline', _⟩ := look_of_whole twin (part_whole other otherWhole address twin there)
      rw [looks, looks'] at same
      cases same
      rw [there, Option.map_some, Option.map_some, Option.map_some, Option.map_some, outline, outline']

section

variable (pattern : Pattern)

theorem render_of_whole (whole : pattern.Whole) : pattern.render = .ok pattern.toBlock.render := by
  rw [Text.Block.render, lines_of_block pattern "" whole]
  cases pattern with
  | node test children guard slot =>
      have none : forestForeign? children = none := whole
      rw [render, none]
  | value held => cases whole

theorem whole_of_render (matcher : pattern.look?.isSome) (text : String) (printed : pattern.render = .ok text) :
    pattern.Whole := by
  cases pattern with
  | node test children guard slot =>
      rw [render] at printed
      cases foreign : forestForeign? children with
      | none => exact foreign
      | some held =>
          rw [foreign] at printed
          cases printed
  | value held => cases matcher

theorem printed_tells_look (whole : pattern.Whole) (address : List Nat) :
    lookIn? pattern.toBlock.render address = (pattern.partAt address).bind look? := by
  rw [lookIn?, Text.Block.read_render _ (to_block_legible pattern whole), List.head?_cons, Option.bind_some,
    block_at_position]
  exact looks_at_position pattern whole address

/-- A pattern has a printed form just when no plain value stands for a pattern in it, and the printed form
says of every position what the pattern has there: the test of the kind, whether there is a guard, whether
there is a slot, and the number of the patterns for the children. So two patterns have one printed form
just when they look alike at every position. -/
theorem render_tells_marks (matcher : pattern.look?.isSome) :
    ((∃ text, pattern.render = .ok text) ↔ pattern.foreign? = none)
      ∧ (∀ text, pattern.render = .ok text → ∀ address,
        lookIn? text address = (pattern.partAt address).bind look?)
      ∧ ∀ (other : Pattern) (text otherText : String), other.look?.isSome → pattern.render = .ok text →
        other.render = .ok otherText → (text = otherText ↔ pattern.LooksLike other) := by
  refine ⟨⟨fun ⟨text, printed⟩ => whole_of_render pattern matcher text printed, fun whole =>
    ⟨_, render_of_whole pattern whole⟩⟩, fun text printed address => ?_, ?_⟩
  · have whole := whole_of_render pattern matcher text printed
    rw [render_of_whole pattern whole] at printed
    cases printed
    exact printed_tells_look pattern whole address
  · intro other text otherText otherMatcher printed otherPrinted
    have whole := whole_of_render pattern matcher text printed
    have otherWhole := whole_of_render other otherMatcher otherText otherPrinted
    rw [render_of_whole pattern whole] at printed
    rw [render_of_whole other otherWhole] at otherPrinted
    cases printed
    cases otherPrinted
    constructor
    · intro same address
      rw [every_part_looks pattern whole, every_part_looks other otherWhole, ← printed_tells_look pattern whole,
        ← printed_tells_look other otherWhole, same]
    · intro alike
      apply congrArg Text.Block.render
      apply Text.Block.same_of_outlines
      intro address
      rw [block_at_position, block_at_position]
      exact outlines_alike pattern other whole otherWhole alike address

end

end Pattern

end

namespace Pattern

def guardNode (guard : Option Guard) (slot : Option String) : Pattern :=
  node (.exactly (.carrier .guard)) [node .any [] guard slot] guard slot

theorem render_tells_marks_guard_node :
    (guardNode (some (.test fun _ _ => .ok true)) none).look?.isSome
      ∧ (guardNode none (some "s")).look?.isSome
      ∧ (guardNode (some (.test fun _ _ => .ok true)) none).render = .ok "guard [guard]\n  any [guard]"
      ∧ (guardNode none (some "s")).render = .ok "guard [capture]\n  any [capture]"
      ∧ lookIn? "guard [guard]\n  any [guard]" [0] = some ⟨.any, true, false, 0⟩
      ∧ ¬ (guardNode (some (.test fun _ _ => .ok true)) none).LooksLike (guardNode none (some "s")) := by
  obtain ⟨_, told, apart⟩ := render_tells_marks (guardNode (some (.test fun _ _ => .ok true)) none) rfl
  have guarded : (guardNode (some (.test fun _ _ => .ok true)) none).render
      = .ok "guard [guard]\n  any [guard]" := rfl
  have captured : (guardNode none (some "s")).render = .ok "guard [capture]\n  any [capture]" := rfl
  refine ⟨rfl, rfl, guarded, captured, told _ guarded [0], fun alike => ?_⟩
  exact absurd ((apart (guardNode none (some "s")) _ _ rfl guarded captured).mpr alike) (by decide)

end Pattern

end ScheduleShape
