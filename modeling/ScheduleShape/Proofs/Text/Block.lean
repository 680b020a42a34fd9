import ScheduleShape.Text.Block

set_option autoImplicit false

namespace ScheduleShape.Text

def Spaces (indent : String) : Prop := ∀ c ∈ indent.toList, c = ' '

section

variable {indent : String}

theorem spaces_step (spaces : Spaces indent) : Spaces (indent ++ indentStep) := by
  intro c among
  rw [String.toList_append, List.mem_append] at among
  rcases among with outside | step
  · exact spaces c outside
  · simpa [indentStep] using step

theorem line_of_indented (heading : String) (spaces : Spaces indent) (legible : Legible heading) :
    Line.ofText (indent ++ heading) = ⟨indent.length, heading⟩ := by
  have margin : ∀ c ∈ indent.toList, decide (c = ' ') = true := fun c among => decide_eq_true (spaces c among)
  have rest : heading.toList.takeWhile (· = ' ') = [] ∧ heading.toList.dropWhile (· = ' ') = heading.toList := by
    cases chars : heading.toList with
    | nil => exact ⟨rfl, rfl⟩
    | cons c later =>
        have other : c ≠ ' ' := fun same => legible.2 (by rw [chars, same]; rfl)
        simp [other]
  rw [Line.ofText, String.toList_append, List.takeWhile_append_of_pos margin,
    List.dropWhile_append_of_pos margin, rest.1, rest.2, List.append_nil, String.ofList_toList]
  rfl

end

namespace Block

def Inside (margin : Nat) (lines : List Line) : Prop := ∀ line ∈ lines, margin ≤ line.margin

def Ends (margin : Nat) (lines : List Line) : Prop := ∀ line, lines.head? = some line → line.margin ≤ margin

mutual

theorem lines_inside (indent : String) (block : Block) (spaces : Spaces indent) (legible : block.AllLegible) :
    Inside indent.length ((block.lines indent).map Line.ofText) := by
  cases block with
  | node heading parts =>
      intro line among
      rw [lines, List.map_cons, line_of_indented heading spaces legible.1, List.mem_cons] at among
      rcases among with first | later
      · subst first
        exact Nat.le_refl _
      · have deeper := forest_inside _ parts (spaces_step spaces) legible.2 line later
        rw [String.length_append] at deeper
        omega

theorem forest_inside (indent : String) (blocks : List Block) (spaces : Spaces indent)
    (legible : ForestLegible blocks) :
    Inside indent.length ((forestLines indent blocks).map Line.ofText) := by
  cases blocks with
  | nil => intro line among; cases among
  | cons block blocks =>
      intro line among
      rw [forestLines, List.map_append, List.mem_append] at among
      rcases among with here | later
      · exact lines_inside indent block spaces legible.1 line here
      · exact forest_inside indent blocks spaces legible.2 line later

end

theorem forest_ends (indent : String) (blocks : List Block) (spaces : Spaces indent)
    (legible : ForestLegible blocks) :
    Ends indent.length ((forestLines indent blocks).map Line.ofText) := by
  cases blocks with
  | nil => intro line first; cases first
  | cons block blocks =>
      cases block with
      | node heading parts =>
          intro line first
          rw [forestLines, lines, List.cons_append, List.map_cons,
            line_of_indented heading spaces legible.1.1] at first
          cases first
          exact Nat.le_refl _

theorem cut_at_end (margin : Nat) (within after : List Line) (deep : Inside (margin + 1) within)
    (ends : Ends margin after) :
    ((within ++ after).takeWhile fun later => margin < later.margin) = within
      ∧ ((within ++ after).dropWhile fun later => margin < later.margin) = after := by
  have all : ∀ line ∈ within, decide (margin < line.margin) = true := fun line among =>
    decide_eq_true (deep line among)
  rw [List.takeWhile_append_of_pos all, List.dropWhile_append_of_pos all]
  cases after with
  | nil => exact ⟨List.append_nil _, rfl⟩
  | cons line after =>
      have outside : ¬ margin < line.margin := Nat.not_lt.mpr (ends line rfl)
      simp [outside]

-- The induction is on the block and on its parts; the lines after it may be any that end it.
mutual

theorem of_lines_block (indent : String) (block : Block) (after : List Line) (spaces : Spaces indent)
    (legible : block.AllLegible) (ends : Ends indent.length after) :
    ofLines ((block.lines indent).map Line.ofText ++ after) = block :: ofLines after := by
  cases block with
  | node heading parts =>
      have deeper : indent.length + 1 ≤ (indent ++ indentStep).length := by
        rw [String.length_append]
        exact Nat.add_le_add_left (by decide) _
      have deep : Inside (indent.length + 1) ((forestLines (indent ++ indentStep) parts).map Line.ofText) :=
        fun line among =>
          Nat.le_trans deeper (forest_inside _ parts (spaces_step spaces) legible.2 line among)
      obtain ⟨inside, outside⟩ := cut_at_end indent.length _ after deep ends
      rw [lines, List.map_cons, line_of_indented heading spaces legible.1, List.cons_append, ofLines]
      dsimp only
      rw [inside, outside, of_lines_forest _ parts (spaces_step spaces) legible.2]

theorem of_lines_forest (indent : String) (blocks : List Block) (spaces : Spaces indent)
    (legible : ForestLegible blocks) :
    ofLines ((forestLines indent blocks).map Line.ofText) = blocks := by
  cases blocks with
  | nil => rw [forestLines, List.map_nil, ofLines]
  | cons block blocks =>
      rw [forestLines, List.map_append, of_lines_block indent block _ spaces legible.1
        (forest_ends indent blocks spaces legible.2), of_lines_forest indent blocks spaces legible.2]

end

mutual

theorem lines_plain (indent : String) (block : Block) (spaces : Spaces indent) (legible : block.AllLegible) :
    ∀ line ∈ block.lines indent, '\n' ∉ line.toList := by
  cases block with
  | node heading parts =>
      intro line among
      rw [lines, List.mem_cons] at among
      rcases among with first | later
      · rw [first, String.toList_append, List.mem_append]
        intro broken
        rcases broken with outside | inside
        · exact absurd (spaces '\n' outside) (by decide)
        · exact legible.1.1 inside
      · exact forest_plain _ parts (spaces_step spaces) legible.2 line later

theorem forest_plain (indent : String) (blocks : List Block) (spaces : Spaces indent)
    (legible : ForestLegible blocks) :
    ∀ line ∈ forestLines indent blocks, '\n' ∉ line.toList := by
  cases blocks with
  | nil => intro line among; cases among
  | cons block blocks =>
      intro line among
      rw [forestLines, List.mem_append] at among
      rcases among with here | later
      · exact lines_plain indent block spaces legible.1 line here
      · exact forest_plain indent blocks spaces legible.2 line later

end

theorem read_render (block : Block) (legible : block.AllLegible) : read block.render = [block] := by
  have spaces : Spaces "" := fun c among => by cases among
  have some : block.lines "" ≠ [] := by
    cases block with
    | node heading parts => exact List.cons_ne_nil _ _
  rw [read, render, lines_of_joined _ some, flat_map_plain _ (lines_plain "" block spaces legible),
    ← List.append_nil ((block.lines "").map Line.ofText), of_lines_block "" block [] spaces legible
      (fun line first => by cases first), ofLines]

mutual

theorem same_of_outlines (block other : Block)
    (alike : ∀ address, (block.blockAt address).map outline = (other.blockAt address).map outline) :
    block = other := by
  cases block with
  | node heading parts =>
      cases other with
      | node otherHeading others =>
          obtain ⟨same, count⟩ := Prod.mk.inj (Option.some.inj (alike []))
          have parts := same_forest_of_outlines parts others count fun index address =>
            alike (index :: address)
          rw [show heading = otherHeading from same, parts]

theorem same_forest_of_outlines (blocks others : List Block) (count : blocks.length = others.length)
    (alike : ∀ (index : Nat) (address : List Nat),
      (blocks[index]?.bind (·.blockAt address)).map outline
        = (others[index]?.bind (·.blockAt address)).map outline) :
    blocks = others := by
  cases blocks with
  | nil => exact (List.eq_nil_of_length_eq_zero count.symm).symm
  | cons block blocks =>
      cases others with
      | nil => cases count
      | cons other others =>
          rw [same_of_outlines block other fun address => alike 0 address,
            same_forest_of_outlines blocks others (Nat.succ.inj count) fun index address =>
              alike (index + 1) address]

end

end Block

theorem legible_of_word (word suffix : String) (some : word ≠ "")
    (lower : ∀ c ∈ word.toList, c.isLower = true) (plain : '\n' ∉ suffix.toList) :
    Legible (word ++ suffix) := by
  rw [Legible, String.toList_append]
  constructor
  · intro broken
    rcases List.mem_append.mp broken with inside | after
    · exact absurd (lower '\n' inside) (by decide)
    · exact plain after
  · cases chars : word.toList with
    | nil => exact absurd (String.toList_eq_nil_iff.mp chars) some
    | cons c rest =>
        intro first
        have small := lower c (by rw [chars]; exact List.mem_cons_self)
        rw [show c = ' ' from Option.some.inj first] at small
        exact absurd small (by decide)

theorem cut_word (word suffix : String) (stop : Char) (other : stop.isLower = false)
    (lower : ∀ c ∈ word.toList, c.isLower = true)
    (stopped : suffix.toList = [] ∨ suffix.toList.head? = some stop) :
    String.ofList ((word ++ suffix).toList.takeWhile (· ≠ stop)) = word
      ∧ (word ++ suffix).toList.dropWhile (· ≠ stop) = suffix.toList := by
  have different : ∀ c ∈ word.toList, decide (c ≠ stop) = true := by
    intro c among
    refine decide_eq_true fun same => ?_
    have small := lower c among
    rw [same, other] at small
    cases small
  rw [String.toList_append, List.takeWhile_append_of_pos different, List.dropWhile_append_of_pos different]
  rcases stopped with nothing | first
  · rw [nothing, List.takeWhile_nil, List.append_nil, String.ofList_toList]
    exact ⟨rfl, rfl⟩
  · obtain ⟨rest, chars⟩ := List.head?_eq_some_iff.mp first
    rw [chars]
    simp

end ScheduleShape.Text
