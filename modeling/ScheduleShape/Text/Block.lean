import ScheduleShape.Tree.Basic

set_option autoImplicit false

namespace ScheduleShape

namespace Text

def linesOf (text : String) : List String := (text.toList.splitOn '\n').map String.ofList

theorem lines_of_plain (text : String) (plain : '\n' ∉ text.toList) : linesOf text = [text] := by
  rw [linesOf, List.splitOn_eq_singleton plain, List.map_singleton, String.ofList_toList]

theorem flat_map_plain (texts : List String) (plain : ∀ text ∈ texts, '\n' ∉ text.toList) :
    texts.flatMap linesOf = texts := by
  induction texts with
  | nil => rfl
  | cons text texts ih =>
      rw [List.flatMap_cons, lines_of_plain text (plain text List.mem_cons_self),
        ih fun later among => plain later (List.mem_cons_of_mem text among)]
      rfl

theorem lines_of_broken (first second : String) :
    linesOf (first ++ "\n" ++ second) = linesOf first ++ linesOf second := by
  have chars : (first ++ "\n" ++ second).toList = first.toList ++ '\n' :: second.toList := by simp
  rw [linesOf, chars, List.splitOn_append_cons_self, List.map_append]
  rfl

theorem lines_of_joined (texts : List String) (some : texts ≠ []) :
    linesOf ("\n".intercalate texts) = texts.flatMap linesOf := by
  induction texts with
  | nil => exact absurd rfl some
  | cons text texts ih =>
      cases texts with
      | nil => rw [String.intercalate_singleton, List.flatMap_singleton]
      | cons next texts =>
          rw [String.intercalate_cons_cons, lines_of_broken, ih (List.cons_ne_nil next texts)]
          exact List.flatMap_cons.symm

end Text

namespace Text

inductive Block where
  | node (heading : String) (parts : List Block)

structure Line where
  margin : Nat
  heading : String

def Line.ofText (text : String) : Line :=
  ⟨(text.toList.takeWhile (· = ' ')).length, String.ofList (text.toList.dropWhile (· = ' '))⟩

namespace Block

def heading : Block → String
  | node heading _ => heading

def parts : Block → List Block
  | node _ parts => parts

def outline (block : Block) : String × Nat := (block.heading, block.parts.length)

def blockAt : Block → List Nat → Option Block
  | block, [] => some block
  | block, index :: address => block.parts[index]?.bind fun part => part.blockAt address

mutual

def lines (indent : String) : Block → List String
  | node heading parts => (indent ++ heading) :: forestLines (indent ++ indentStep) parts

def forestLines (indent : String) : List Block → List String
  | [] => []
  | block :: blocks => lines indent block ++ forestLines indent blocks

end

def render (block : Block) : String := "\n".intercalate (block.lines "")

def ofLines : List Line → List Block
  | [] => []
  | line :: lines =>
      node line.heading (ofLines (lines.takeWhile fun later => line.margin < later.margin))
        :: ofLines (lines.dropWhile fun later => line.margin < later.margin)
termination_by lines => lines.length
decreasing_by
  · exact Nat.lt_succ_of_le (List.takeWhile_sublist _).length_le
  · exact Nat.lt_succ_of_le (List.dropWhile_sublist _).length_le

def read (text : String) : List Block := ofLines ((linesOf text).map Line.ofText)

end Block

def Legible (heading : String) : Prop := '\n' ∉ heading.toList ∧ heading.toList.head? ≠ some ' '

instance (heading : String) : Decidable (Legible heading) := inferInstanceAs (Decidable (_ ∧ _))

mutual

def Block.AllLegible : Block → Prop
  | .node heading parts => Legible heading ∧ Block.ForestLegible parts

def Block.ForestLegible : List Block → Prop
  | [] => True
  | block :: blocks => block.AllLegible ∧ Block.ForestLegible blocks

end

end Text

end ScheduleShape
