import ScheduleShape.Access.Matcher
import ScheduleShape.Text.Block

set_option autoImplicit false

namespace ScheduleShape

namespace Label

def lines (label : Label) : List String := Text.linesOf label.text

def Stops (line : String) : Prop := line ≠ "" ∧ ∀ c, line.toList.head? = some c → isLabelChar c = false

def StoppedBy (lines : List String) : Prop := ∀ line, lines.head? = some line → Stops line

theorem text_cases (label : Label) :
    ∃ c, isLabelChar c = true
      ∧ (label.text = String.singleton c ∨ label.text = String.singleton c ++ "\n" ++ "") := by
  have valid := label.valid
  have whole : label.text = String.ofList label.text.toList := String.ofList_toList.symm
  cases chars : label.text.toList with
  | nil =>
      rw [chars] at valid
      cases valid
  | cons c rest =>
      rw [chars] at valid whole
      cases rest with
      | nil => exact ⟨c, valid, .inl whole⟩
      | cons last rest =>
          cases rest with
          | nil =>
              rw [isLabelText, Bool.and_eq_true, decide_eq_true_eq] at valid
              obtain ⟨letter, rfl⟩ := valid
              refine ⟨c, letter, .inr (whole.trans ?_)⟩
              apply String.toList_inj.mp
              simp
          | cons _ _ => cases valid

theorem letter_plain (c : Char) (letter : isLabelChar c = true) : '\n' ∉ (String.singleton c).toList := by
  intro broken
  have same : '\n' = c := by simpa using broken
  rw [← same] at letter
  exact absurd letter (by decide)

theorem lines_cases (label : Label) :
    ∃ c, isLabelChar c = true
      ∧ ((label.text = String.singleton c ∧ label.lines = [String.singleton c])
        ∨ (label.text = String.singleton c ++ "\n" ++ "" ∧ label.lines = [String.singleton c, ""])) := by
  obtain ⟨c, letter, single | broken⟩ := label.text_cases
  · refine ⟨c, letter, .inl ⟨single, ?_⟩⟩
    rw [lines, single, Text.lines_of_plain _ (letter_plain c letter)]
  · refine ⟨c, letter, .inr ⟨broken, ?_⟩⟩
    rw [lines, broken, Text.lines_of_broken, Text.lines_of_plain _ (letter_plain c letter)]
    rfl

theorem first_line (label : Label) (after : List String) :
    ∃ c, isLabelChar c = true ∧ (label.lines ++ after).head? = some (String.singleton c) := by
  obtain ⟨c, letter, ⟨_, lines⟩ | ⟨_, lines⟩⟩ := label.lines_cases
  · exact ⟨c, letter, by rw [lines]; rfl⟩
  · exact ⟨c, letter, by rw [lines]; rfl⟩

theorem not_stopped_by_label (label : Label) (after : List String) : ¬ StoppedBy (label.lines ++ after) := by
  intro stopped
  obtain ⟨c, letter, first⟩ := label.first_line after
  have other := (stopped _ first).2 c (by simp)
  rw [letter] at other
  cases other

-- The empty line belongs to the label before it: no label begins with one, and what follows does not either.
theorem no_empty_first (labels : List Label) (after : List String) (stopped : StoppedBy after) :
    (labels.flatMap lines ++ after).head? ≠ some "" := by
  intro empty
  cases labels with
  | nil => exact (stopped "" empty).1 rfl
  | cons label labels =>
      rw [List.flatMap_cons, List.append_assoc] at empty
      obtain ⟨c, _, first⟩ := label.first_line (labels.flatMap lines ++ after)
      rw [first] at empty
      have blank := congrArg String.toList (Option.some.inj empty)
      simp at blank

theorem eq_of_text (label other : Label) (same : label.text = other.text) : label = other := by
  cases label
  cases other
  cases same
  rfl

theorem first_told (label other : Label) (after otherAfter : List String)
    (closed : after.head? ≠ some "") (otherClosed : otherAfter.head? ≠ some "")
    (same : label.lines ++ after = other.lines ++ otherAfter) : label = other ∧ after = otherAfter := by
  obtain ⟨c, _, ⟨text, lines⟩ | ⟨text, lines⟩⟩ := label.lines_cases
  · obtain ⟨d, _, ⟨text', lines'⟩ | ⟨text', lines'⟩⟩ := other.lines_cases
    · rw [lines, lines'] at same
      obtain ⟨letter, rest⟩ := List.cons.inj same
      exact ⟨eq_of_text _ _ (by rw [text, text', letter]), rest⟩
    · rw [lines, lines'] at same
      obtain ⟨_, rest⟩ := List.cons.inj same
      exact absurd (congrArg List.head? rest) closed
  · obtain ⟨d, _, ⟨text', lines'⟩ | ⟨text', lines'⟩⟩ := other.lines_cases
    · rw [lines, lines'] at same
      obtain ⟨_, rest⟩ := List.cons.inj same
      exact absurd (congrArg List.head? rest.symm) otherClosed
    · rw [lines, lines'] at same
      obtain ⟨letter, rest⟩ := List.cons.inj same
      exact ⟨eq_of_text _ _ (by rw [text, text', letter]), (List.cons.inj rest).2⟩

theorem labels_told (labels others : List Label) (after otherAfter : List String) (stopped : StoppedBy after)
    (otherStopped : StoppedBy otherAfter)
    (same : labels.flatMap lines ++ after = others.flatMap lines ++ otherAfter) :
    labels = others ∧ after = otherAfter := by
  induction labels generalizing others with
  | nil =>
      cases others with
      | nil => exact ⟨rfl, same⟩
      | cons other others =>
          rw [List.flatMap_nil, List.nil_append, List.flatMap_cons, List.append_assoc] at same
          rw [same] at stopped
          exact absurd stopped (other.not_stopped_by_label _)
  | cons label labels ih =>
      cases others with
      | nil =>
          rw [List.flatMap_nil, List.nil_append, List.flatMap_cons, List.append_assoc] at same
          rw [← same] at otherStopped
          exact absurd otherStopped (label.not_stopped_by_label _)
      | cons other others =>
          rw [List.flatMap_cons, List.flatMap_cons, List.append_assoc, List.append_assoc] at same
          obtain ⟨first, rest⟩ := first_told label other _ _ (no_empty_first labels after stopped)
            (no_empty_first others otherAfter otherStopped) same
          obtain ⟨later, following⟩ := ih others rest
          exact ⟨by rw [first, later], following⟩

end Label

end ScheduleShape
