import ScheduleShape.Proofs.Access.Label
import ScheduleShape.Proofs.Constraint.Agreement
import ScheduleShape.Proofs.Finder.Search
import ScheduleShape.Text.Quoted

set_option autoImplicit false

namespace ScheduleShape

namespace Value

theorem not_letter_of_line (value : Value) (ended : value.IsLetterLine) : ¬ value.IsLetter := by
  intro letter
  obtain ⟨c, _, rfl⟩ := ended
  obtain ⟨d, _, same⟩ := letter
  have lengths := congrArg String.length (Value.text.inj same)
  simp at lengths

end Value

namespace Label

@[simp]
theorem of_as_value (label : Label) : ofValue? label.asValue = some label := dif_pos label.valid

theorem as_value_passes (label : Label) : label.asValue.Passes := by
  obtain ⟨c, letter, single | ended⟩ := label.text_cases
  · exact .inl ⟨c, letter, congrArg Value.text single⟩
  · refine .inr ⟨c, letter, congrArg Value.text ?_⟩
    rw [ended, String.append_empty]

theorem of_passing (value : Value) (passes : value.Passes) : ∃ label : Label, value = label.asValue := by
  rcases passes with ⟨c, letter, rfl⟩ | ⟨c, letter, rfl⟩
  · exact ⟨⟨String.singleton c, by simpa [isLabelText] using letter⟩, rfl⟩
  · exact ⟨⟨String.singleton c ++ "\n", by simpa [isLabelText] using letter⟩, rfl⟩

theorem of_value_refused (value : Value) (odd : ¬ value.Passes) : ofValue? value = none := by
  cases value with
  | text content =>
      apply dif_neg
      intro valid
      exact odd (as_value_passes ⟨content, valid⟩)
  | _ => rfl

@[simp]
theorem labels_of_values (labels : List Label) : labelsOfValues (labels.map asValue) = .ok labels := by
  induction labels with
  | nil => rfl
  | cons label labels ih =>
      rw [List.map_cons, labelsOfValues, of_as_value]
      dsimp only
      rw [ih]
      rfl

theorem labels_refused (labels : List Label) (value : Value) (rest : List Value) (odd : ¬ value.Passes) :
    labelsOfValues (labels.map asValue ++ value :: rest) = .error (.notLabel value) := by
  induction labels with
  | nil =>
      rw [List.map_nil, List.nil_append, labelsOfValues, of_value_refused value odd]
  | cons label labels ih =>
      rw [List.map_cons, List.cons_append, labelsOfValues, of_as_value]
      dsimp only
      rw [ih]
      rfl

theorem labels_or_odd (values : List Value) :
    ∃ labels : List Label, values = labels.map asValue ∨
      ∃ value rest, ¬ value.Passes ∧ values = labels.map asValue ++ value :: rest := by
  induction values with
  | nil => exact ⟨[], .inl rfl⟩
  | cons value values ih =>
      by_cases passes : value.Passes
      · obtain ⟨label, rfl⟩ := of_passing value passes
        obtain ⟨labels, rfl | ⟨odd, rest, foreign, rfl⟩⟩ := ih
        · exact ⟨label :: labels, .inl rfl⟩
        · exact ⟨label :: labels, .inr ⟨odd, rest, foreign, rfl⟩⟩
      · exact ⟨[], .inr ⟨value, values, passes, rfl⟩⟩

end Label

namespace AccessMatcher

section

variable (kind : AccessKind) (number : Nat)

theorem make_of_labels (labels : List Label) (nonempty : labels ≠ []) :
    make kind number (labels.map Label.asValue) = .ok ⟨kind, labels, nonempty, number⟩ := by
  rw [make, Label.labels_of_values]
  exact dif_pos nonempty

theorem make_refused (labels : List Label) (value : Value) (rest : List Value) (odd : ¬ value.Passes) :
    make kind number (labels.map Label.asValue ++ value :: rest) = .error (.notLabel value) := by
  rw [make, Label.labels_refused labels value rest odd]
  rfl

variable (values : List Value)

theorem made_or_refused :
    (∃ (labels : List Label) (nonempty : labels ≠ []), values = labels.map Label.asValue
      ∧ make kind number values = .ok ⟨kind, labels, nonempty, number⟩)
    ∨ (values = [] ∧ make kind number values = .error .noLabels)
    ∨ ∃ (labels : List Label) (value : Value) (rest : List Value), ¬ value.Passes
      ∧ values = labels.map Label.asValue ++ value :: rest ∧ make kind number values = .error (.notLabel value) := by
  obtain ⟨labels, rfl | ⟨value, rest, odd, rfl⟩⟩ := Label.labels_or_odd values
  · by_cases nonempty : labels = []
    · subst nonempty
      exact .inr (.inl ⟨rfl, rfl⟩)
    · exact .inl ⟨labels, nonempty, rfl, make_of_labels kind number labels nonempty⟩
  · exact .inr (.inr ⟨labels, value, rest, odd, rfl, make_refused kind number labels value rest odd⟩)

theorem made_iff : (∃ matcher, make kind number values = .ok matcher) ↔
    values ≠ [] ∧ ∀ value ∈ values, value.Passes := by
  rcases made_or_refused kind number values with ⟨labels, nonempty, rfl, made⟩ | ⟨rfl, refused⟩ |
    ⟨labels, value, rest, odd, rfl, refused⟩
  · refine ⟨fun _ => ⟨?_, ?_⟩, fun _ => ⟨_, made⟩⟩
    · exact fun none => nonempty (List.map_eq_nil_iff.mp none)
    · intro value among
      obtain ⟨label, _, rfl⟩ := List.mem_map.mp among
      exact label.as_value_passes
  · refine ⟨fun ⟨matcher, made⟩ => ?_, fun passed => absurd rfl passed.1⟩
    cases refused.symm.trans made
  · refine ⟨fun ⟨matcher, made⟩ => ?_, fun passed => ?_⟩
    · cases refused.symm.trans made
    · exact absurd (passed.2 value (List.mem_append_right _ List.mem_cons_self)) odd

theorem letters_only_iff :
    ((∃ matcher, make kind number values = .ok matcher) ↔ values ≠ [] ∧ ∀ value ∈ values, value.IsLetter) ↔
      ¬ ((∀ value ∈ values, value.Passes) ∧ ∃ value ∈ values, value.IsLetterLine) := by
  rw [made_iff]
  constructor
  · intro told ⟨passed, value, among, ended⟩
    have letters := (told.mp ⟨List.ne_nil_of_mem among, passed⟩).2
    exact value.not_letter_of_line ended (letters value among)
  · intro unended
    constructor
    · intro ⟨nonempty, passed⟩
      refine ⟨nonempty, fun value among => (passed value among).resolve_right fun ended => ?_⟩
      exact unended ⟨passed, value, among, ended⟩
    · intro ⟨nonempty, letters⟩
      exact ⟨nonempty, fun value among => .inl (letters value among)⟩

theorem refused_construction (fault : Fault) (refused : make kind number values = .error fault) :
    fault.isConstruction = true := by
  rcases made_or_refused kind number values with ⟨_, _, _, ended⟩ | ⟨_, ended⟩ | ⟨_, _, _, _, _, ended⟩
  · cases ended.symm.trans refused
  · cases ended.symm.trans refused
    rfl
  · cases ended.symm.trans refused
    rfl

end

end AccessMatcher

theorem printable_ascii (c : Char) (low : 0x20 ≤ c.toNat) (high : c.toNat < 0x7f) :
    Text.isPrintable c = true := by
  have apart : Text.unprintableRanges.all (fun range => range.2 < 0x20 || 0x7f ≤ range.1) = true := by
    decide +kernel
  rw [Text.isPrintable, Bool.not_eq_true', List.any_eq_false]
  intro range among inside
  have outside := List.all_eq_true.mp apart range among
  simp only [Bool.and_eq_true, Bool.or_eq_true, decide_eq_true_eq] at inside outside
  omega

theorem letter_printable (c : Char) (letter : isLabelChar c = true) : Text.isPrintable c = true := by
  have bounds : 0x20 ≤ c.toNat ∧ c.toNat < 0x7f := by
    simp only [isLabelChar, Bool.or_eq_true, Bool.and_eq_true, decide_eq_true_eq, Char.le_def,
      UInt32.le_iff_toNat_le] at letter
    rcases letter with (⟨low, high⟩ | ⟨low, high⟩) | rfl
    · change 97 ≤ c.toNat at low
      change c.toNat ≤ 122 at high
      omega
    · change 65 ≤ c.toNat at low
      change c.toNat ≤ 90 at high
      omega
    · decide
  exact printable_ascii c bounds.1 bounds.2

theorem letter_iff (label : Label) : label.asValue.IsLetter ↔
    ∃ c, label.text = String.singleton c ∧ Text.isPrintable c = true ∧ c ≠ '\n' := by
  constructor
  · intro ⟨c, letter, same⟩
    refine ⟨c, Value.text.inj same, letter_printable c letter, ?_⟩
    intro broken
    subst broken
    cases letter
  · intro ⟨c, same, _, _⟩
    have valid := label.valid
    rw [same, String.toList_singleton] at valid
    exact ⟨c, valid, congrArg Value.text same⟩

section

variable [Affine]

namespace Constraint

variable (label : Value) (term : Operand) (mark : Option Mark)

theorem make_refused (odd : ¬ label.Passes) : make label term mark = .error (.notConstraintLabel label) := by
  rw [make, Label.of_value_refused label odd]

theorem made_iff : (∃ constraint, make label term mark = .ok constraint) ↔ label.Passes := by
  constructor
  · intro ⟨constraint, made⟩
    by_cases passes : label.Passes
    · exact passes
    · cases (make_refused label term mark passes).symm.trans made
  · intro passes
    obtain ⟨held, rfl⟩ := Label.of_passing label passes
    rw [make, Label.of_as_value]
    exact ⟨_, rfl⟩

theorem letters_only_iff :
    ((∃ constraint, make label term mark = .ok constraint) ↔ label.IsLetter) ↔ ¬ label.IsLetterLine := by
  rw [made_iff]
  constructor
  · intro told ended
    exact label.not_letter_of_line ended (told.mp (.inr ended))
  · intro unended
    exact ⟨fun passes => passes.resolve_right unended, .inl⟩

theorem refused_label (fault : Fault) (refused : make label term mark = .error fault) :
    fault = .notConstraintLabel label := by
  by_cases passes : label.Passes
  · obtain ⟨constraint, made⟩ := (made_iff label term mark).mpr passes
    cases made.symm.trans refused
  · cases (make_refused label term mark passes).symm.trans refused
    rfl

end Constraint

namespace Finder

theorem reported_labels (finder : Finder) (finding : Finding) (among : finding ∈ finder.nested) (label : Label)
    (reported : label ∈ finding.agreed.labels) :
    finding.reader ∈ finder.readers ∧ label ∈ finding.reader.labels := by
  obtain ⟨reading, constraints, listed, held⟩ := finder.agreed_of_nested finding among
  rw [labels_of_constraints finding.agreed constraints listed] at reported
  obtain ⟨constraint, bound, rfl⟩ := List.mem_map.mp reported
  exact ⟨reading, held constraint bound⟩

end Finder

/-- What passes for a label, of a matcher and of a constraint alike, is a text of one letter or underscore, and
such a text with a line end after it. All else is refused. So labels are single printable characters just
where no text with a line end is let in, and then so are those that a search reports, which are labels of
its readers. -/
theorem labels_pass_gate (kind : AccessKind) (number : Nat) (values : List Value) (label : Value) (term : Operand)
    (mark : Option Mark) :
    (((∃ matcher, AccessMatcher.make kind number values = .ok matcher) ↔
        values ≠ [] ∧ ∀ value ∈ values, value.Passes)
      ∧ (∀ fault, AccessMatcher.make kind number values = .error fault → fault.isConstruction = true)
      ∧ (((∃ matcher, AccessMatcher.make kind number values = .ok matcher) ↔
        values ≠ [] ∧ ∀ value ∈ values, value.IsLetter) ↔
          ¬ ((∀ value ∈ values, value.Passes) ∧ ∃ value ∈ values, value.IsLetterLine)))
    ∧ (∀ held : Value, held.elements = .ok values →
      AccessMatcher.ofElements kind number held = AccessMatcher.make kind number values)
    ∧ (((∃ constraint, Constraint.make label term mark = .ok constraint) ↔ label.Passes)
      ∧ (∀ fault, Constraint.make label term mark = .error fault → fault = .notConstraintLabel label)
      ∧ (((∃ constraint, Constraint.make label term mark = .ok constraint) ↔ label.IsLetter) ↔
        ¬ label.IsLetterLine))
    ∧ (∀ one : Label, one.asValue.IsLetter ↔
      ∃ c, one.text = String.singleton c ∧ Text.isPrintable c = true ∧ c ≠ '\n')
    ∧ ∀ (finder : Finder) ledger findings progress, finder.find ledger = .ok findings progress →
      ∀ finding ∈ findings, ∀ one ∈ finding.agreed.labels,
        finding.reader ∈ finder.readers ∧ one ∈ finding.reader.labels := by
  refine ⟨?_, ?_, ?_, letter_iff, ?_⟩
  · exact ⟨AccessMatcher.made_iff kind number values, AccessMatcher.refused_construction kind number values,
      AccessMatcher.letters_only_iff kind number values⟩
  · intro held given
    rw [AccessMatcher.ofElements, given]
    rfl
  · exact ⟨Constraint.made_iff label term mark, Constraint.refused_label label term mark,
      Constraint.letters_only_iff label term mark⟩
  · intro finder ledger findings progress ended finding among one reported
    obtain ⟨rfl, _⟩ := finder.find_ok ledger findings progress ended
    exact finder.reported_labels finding among one reported

end

theorem labels_pass_gate_line_end :
    (∃ matcher, AccessMatcher.make .read 0 [.text "a\n"] = .ok matcher
        ∧ matcher.labels.map Label.text = ["a\n"])
      ∧ (∃ constraint, Constraint.make (.text "a\n") (.value .null) none = .ok constraint
        ∧ constraint.label.text = "a\n")
      ∧ ¬ (Value.text "a\n").IsLetter := by
  refine ⟨⟨_, rfl, rfl⟩, ⟨_, rfl, rfl⟩, ?_⟩
  exact Value.not_letter_of_line _ ⟨'a', by decide, congrArg Value.text (by decide)⟩

end ScheduleShape
