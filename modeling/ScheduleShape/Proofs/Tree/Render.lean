import ScheduleShape.Affine.Boxes
import ScheduleShape.Proofs.Text.Block
import ScheduleShape.Tree.Look

set_option autoImplicit false

namespace ScheduleShape

section

theorem Kind.word_lower (kind : Kind) : ∀ c ∈ kind.word.toList, c.isLower = true := by
  rw [← List.all_eq_true]
  cases kind with
  | carrier kind => cases kind <;> decide
  | group kind => cases kind <;> decide
  | leaf => decide

variable [Affine]

namespace Tree

theorem heading_group (kind : GroupKind) (children : List Tree) :
    (group kind children).heading = (Kind.group kind).word := by
  rw [heading]
  exact String.append_empty

theorem to_block_node (tree : Tree) : tree.toBlock = .node tree.heading (toBlocks tree.children) := by
  cases tree with
  | carrier kind payload children => rfl
  | group kind children => rw [toBlock, heading_group]; rfl
  | leaf => rfl

theorem to_blocks_map (trees : List Tree) : toBlocks trees = trees.map toBlock := by
  induction trees with
  | nil => rfl
  | cons tree trees ih => rw [toBlocks, ih, List.map_cons]

theorem block_at_address (tree : Tree) (address : List Nat) :
    tree.toBlock.blockAt address = (tree.subtreeAt address).map toBlock := by
  induction address generalizing tree with
  | nil => rfl
  | cons index address ih =>
      rw [to_block_node, Text.Block.blockAt, Text.Block.parts, to_blocks_map, List.getElem?_map, subtreeAt]
      cases tree.children[index]? with
      | none => rfl
      | some child => exact ih child

mutual

theorem lines_of_block (tree : Tree) (indent : String) : tree.toBlock.lines indent = tree.lines indent := by
  cases tree with
  | carrier kind payload children =>
      rw [toBlock, Text.Block.lines, lines, lines_of_blocks children, String.append_assoc]
  | group kind children => rw [toBlock, Text.Block.lines, lines, lines_of_blocks children]
  | leaf => rfl

theorem lines_of_blocks (trees : List Tree) (indent : String) :
    Text.Block.forestLines indent (toBlocks trees) = forestLines indent trees := by
  cases trees with
  | nil => rfl
  | cons tree trees =>
      rw [toBlocks, Text.Block.forestLines, forestLines, lines_of_block tree, lines_of_blocks trees]

end

def suffixOf : Option String → String
  | some text => ": " ++ text
  | none => ""

theorem suffix_of_shown (payload : Payload) : payloadSuffix payload = suffixOf payload.shown? := by
  rw [payloadSuffix, Payload.shown?]
  cases payload.isNull <;> rfl

def Look.outline (look : Look) : String × Nat := (look.kind.word ++ suffixOf look.shown, look.count)

theorem outline_of_look (tree : Tree) : tree.toBlock.outline = tree.look.outline := by
  rw [to_block_node, Text.Block.outline, Text.Block.heading, Text.Block.parts, heading, suffix_of_shown,
    to_blocks_map, List.length_map]
  rfl

mutual

theorem to_block_legible (tree : Tree) (plain : tree.OneLined) : tree.toBlock.AllLegible := by
  cases tree with
  | carrier kind payload children =>
      refine ⟨Text.legible_of_word _ _ ?_ (Kind.word_lower _) ?_, to_blocks_legible children plain.2⟩
      · cases kind <;> decide
      · rw [suffix_of_shown]
        cases shown : payload.shown? with
        | none => exact List.not_mem_nil
        | some text => simpa [suffixOf] using plain.1 text shown
  | group kind children =>
      refine ⟨?_, to_blocks_legible children plain⟩
      cases kind <;> decide
  | leaf => exact ⟨by decide, trivial⟩

theorem to_blocks_legible (trees : List Tree) (plain : ForestOneLined trees) :
    Text.Block.ForestLegible (toBlocks trees) := by
  cases trees with
  | nil => trivial
  | cons tree trees => exact ⟨to_block_legible tree plain.1, to_blocks_legible trees plain.2⟩

end

theorem look_of_block (tree : Tree) : lookOf? tree.toBlock = some tree.look := by
  have stopped : (payloadSuffix tree.payload).toList = []
      ∨ (payloadSuffix tree.payload).toList.head? = some ':' := by
    rw [suffix_of_shown]
    cases tree.payload.shown? with
    | none => exact .inl rfl
    | some text => exact .inr (by simp [suffixOf])
  obtain ⟨word, rest⟩ := Text.cut_word tree.kind.word _ ':' (by decide) (Kind.word_lower tree.kind) stopped
  rw [to_block_node, lookOf?, Text.Block.heading, Text.Block.parts, heading, word, rest, Kind.of_word_word,
    to_blocks_map, List.length_map, suffix_of_shown, look]
  cases tree.payload.shown? <;> simp [suffixOf]

/-- The printed form of a tree whose payloads show no line end says of every address what the tree has
there: the kind, the number of the children and the payload that is shown, if one is. So two such trees
have one printed form just when they look alike at every address. -/
theorem render_tells_look (tree : Tree) (plain : tree.OneLined) :
    (∀ address, lookIn? tree.render address = (tree.subtreeAt address).map look)
      ∧ ∀ other : Tree, other.OneLined → (tree.render = other.render ↔ tree.LooksLike other) := by
  have printed : ∀ tree : Tree, tree.render = tree.toBlock.render := fun tree => by
    rw [render, Text.Block.render, lines_of_block]
  have told : ∀ tree : Tree, tree.OneLined →
      ∀ address, lookIn? tree.render address = (tree.subtreeAt address).map look := by
    intro tree plain address
    rw [lookIn?, printed, Text.Block.read_render _ (to_block_legible tree plain), List.head?_cons,
      Option.bind_some, block_at_address]
    cases tree.subtreeAt address with
    | none => rfl
    | some node => exact look_of_block node
  refine ⟨told tree plain, fun other otherPlain => ⟨fun same address => ?_, fun alike => ?_⟩⟩
  · rw [← told tree plain, ← told other otherPlain, same]
  · have blocks : tree.toBlock = other.toBlock := by
      refine Text.Block.same_of_outlines _ _ fun address => ?_
      have here := congrArg (Option.map Look.outline) (alike address)
      rw [Option.map_map, Option.map_map] at here
      rw [block_at_address, block_at_address, Option.map_map, Option.map_map]
      simpa only [Function.comp_def, outline_of_look] using here
    rw [printed, printed, blocks]

end Tree

end

namespace Tree

def emptyNote (payload : Payload) : Tree :=
  carrier .mark (.value (.text ": leaf  ")) [carrier .filter payload [leaf], leaf]

theorem render_tells_look_empty_note :
    (emptyNote (.value (.text ""))).OneLined ∧ (emptyNote (.value .null)).OneLined
      ∧ (emptyNote (.value (.text ""))).render ≠ (emptyNote (.value .null)).render
      ∧ lookIn? (emptyNote (.value (.text ""))).render [0] = some ⟨.carrier .filter, 1, some ""⟩ := by
  have shownPlain : (emptyNote (.value (.text ""))).OneLined := by
    refine ⟨fun text shown => ?_, ⟨fun text shown => ?_, trivial, trivial⟩, trivial, trivial⟩
    · cases shown
      decide
    · cases shown
      decide
  have barePlain : (emptyNote (.value .null)).OneLined := by
    refine ⟨fun text shown => ?_, ⟨fun text shown => ?_, trivial, trivial⟩, trivial, trivial⟩
    · cases shown
      decide
    · cases shown
  obtain ⟨told, apart⟩ := render_tells_look _ shownPlain
  refine ⟨shownPlain, barePlain, fun same => ?_, told [0]⟩
  have alike := (apart _ barePlain).mp same [0]
  exact absurd alike (by decide)

end Tree

end ScheduleShape
