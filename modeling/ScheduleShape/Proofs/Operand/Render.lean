import ScheduleShape.Operand.Render
import ScheduleShape.Proofs.Access.Label
import ScheduleShape.Proofs.Finder.Chronicle
import ScheduleShape.Proofs.Operand.Columns
import ScheduleShape.Proofs.Operand.Depth
import ScheduleShape.Proofs.Outcome

set_option autoImplicit false

namespace ScheduleShape

def Text.Expressive (text : String) : Prop :=
  '\n' ∉ text.toList ∧ (text.toList.head? = some '\x7b' ∨ text.toList.head? = some '[')

instance (text : String) : Decidable (Text.Expressive text) := inferInstanceAs (Decidable (_ ∧ _))

theorem related_to {α β : Type} {related : α → β → Prop} {items : List α} {others : List β}
    (all : List.Forall₂ related items others) (other : β) (among : other ∈ others) :
    ∃ item ∈ items, related item other := by
  induction all with
  | nil => cases among
  | cons here _ ih =>
      rcases List.mem_cons.mp among with same | later
      · rw [same]
        exact ⟨_, List.mem_cons_self, here⟩
      · obtain ⟨item, listed, holds⟩ := ih later
        exact ⟨item, List.mem_cons_of_mem _ listed, holds⟩

namespace AccessMatcher

theorem title_plain (matcher : AccessMatcher) : '\n' ∉ matcher.title.toList := by
  rw [title]
  cases matcher.kind <;> decide

theorem kind_of_title (matcher other : AccessMatcher) (same : matcher.title = other.title) :
    matcher.kind = other.kind := by
  rw [title, title] at same
  cases kind : matcher.kind <;> cases otherKind : other.kind <;> rw [kind, otherKind] at same <;>
    first
    | rfl
    | exact absurd same (by decide)

theorem lines_printed (matcher : AccessMatcher) (table : List (List String))
    (plain : ∀ line ∈ matcher.columnLines table, '\n' ∉ line.toList) :
    Text.linesOf ("\n".intercalate (matcher.lines table))
      = delimiter :: matcher.title
        :: (matcher.labels.flatMap Label.lines ++ (matcher.columnLines table ++ [delimiter])) := by
  have some : matcher.lines table ≠ [] := List.cons_ne_nil _ _
  rw [Text.lines_of_joined _ some, lines]
  simp only [List.flatMap_append, List.flatMap_cons, List.flatMap_nil, List.append_nil, labelTexts,
    List.flatMap_map, Text.flat_map_plain _ plain, Text.lines_of_plain _ matcher.title_plain,
    Text.lines_of_plain delimiter (by decide), List.append_assoc, List.cons_append, List.nil_append]
  rfl

theorem expressive_stops (text : String) (expressive : Text.Expressive text) : Label.Stops text := by
  constructor
  · intro empty
    rw [empty] at expressive
    exact absurd expressive (by decide)
  · intro c first
    rcases expressive.2 with brace | bracket
    · rw [brace] at first
      cases first
      decide
    · rw [bracket] at first
      cases first
      decide

theorem delimiter_stops : Label.Stops delimiter := by
  constructor
  · decide
  · intro c first
    cases first
    decide

theorem columns_stop (lines : List String) (expressive : ∀ line ∈ lines, Text.Expressive line) :
    Label.StoppedBy (lines ++ [delimiter]) := by
  intro line first
  cases lines with
  | nil =>
      cases first
      exact delimiter_stops
  | cons text lines =>
      cases first
      exact expressive_stops _ (expressive _ List.mem_cons_self)

theorem mem_column_lines (matcher : AccessMatcher) (table : List (List String)) (line : String)
    (among : line ∈ matcher.columnLines table) : ∃ row ∈ table, line ∈ row := by
  rw [columnLines] at among
  obtain ⟨position, _, listed⟩ := List.mem_flatMap.mp among
  obtain ⟨row, here, found⟩ := List.mem_filterMap.mp listed
  exact ⟨row, here, List.mem_of_getElem? found⟩

theorem printed_told (matcher other : AccessMatcher) (table otherTable : List (List String))
    (full : ∀ row ∈ table, row.length = matcher.size)
    (otherFull : ∀ row ∈ otherTable, row.length = other.size)
    (expressive : ∀ row ∈ table, ∀ text ∈ row, Text.Expressive text)
    (otherExpressive : ∀ row ∈ otherTable, ∀ text ∈ row, Text.Expressive text)
    (same : "\n".intercalate (matcher.lines table) = "\n".intercalate (other.lines otherTable)) :
    matcher.kind = other.kind ∧ matcher.labels = other.labels ∧ table = otherTable := by
  have columns : ∀ line ∈ matcher.columnLines table, Text.Expressive line := fun line among => by
    obtain ⟨row, here, listed⟩ := mem_column_lines matcher table line among
    exact expressive row here line listed
  have otherColumns : ∀ line ∈ other.columnLines otherTable, Text.Expressive line := fun line among => by
    obtain ⟨row, here, listed⟩ := mem_column_lines other otherTable line among
    exact otherExpressive row here line listed
  have read := congrArg Text.linesOf same
  rw [lines_printed matcher table fun line among => (columns line among).1,
    lines_printed other otherTable fun line among => (otherColumns line among).1] at read
  obtain ⟨titles, rest⟩ := List.cons.inj (List.cons.inj read).2
  obtain ⟨labels, cells⟩ := Label.labels_told _ _ _ _ (columns_stop _ columns) (columns_stop _ otherColumns) rest
  have sizes : matcher.size = other.size := congrArg List.length labels
  refine ⟨kind_of_title matcher other titles, labels, ?_⟩
  rw [← sizes] at otherFull
  apply tables_told matcher table otherTable full otherFull
  rw [List.append_cancel_right cells, columnLines, columnLines, sizes]

end AccessMatcher

section

variable [Affine]

namespace Ledger

variable (ledger : Ledger) (matcher : AccessMatcher)

def shownRows : List (List Operand) :=
  if (ledger.record matcher).resolved then (ledger.record matcher).rows else []

def ShowsExpressions : Prop :=
  ∀ row ∈ ledger.shownRows matcher, ∀ term ∈ row, ∀ text, term.display ledger = .ok text →
    Text.Expressive text

def Shows (table : List (List String)) : Prop :=
  List.Forall₂ (List.Forall₂ fun term text => term.display ledger = .ok text)
    (ledger.shownRows matcher) table

end Ledger

theorem displays_map (draw : AccessMatcher → Except Fault String)
    (quote : List Enclosing → AccessMatcher → Except Fault String) (terms : List Operand) :
    Operand.displaysWith draw quote terms = terms.mapM fun term => term.displayWith draw quote := by
  induction terms with
  | nil => rfl
  | cons term terms ih => rw [Operand.displaysWith, List.mapM_cons, ih]

section

variable (ledger : Ledger) (matcher : AccessMatcher)

-- Inside a matcher a term is printed in less depth than on its own, but as the same text.
theorem shown_on_its_own (term : Operand) (text : String)
    (printed : term.displayWith (AccessMatcher.display ledger (Operand.nestingLimit - 1))
      (AccessMatcher.literal ledger (Operand.nestingLimit - 1)) = .ok text) :
    term.display ledger = .ok text :=
  Operand.display_carries _ _ _ _ (AccessMatcher.display_carries ledger (Operand.nestingLimit - 1))
    (AccessMatcher.literal_carries ledger (Operand.nestingLimit - 1)) term text printed

theorem display_shows (text : String) (printed : Operand.display ledger (.matcher matcher) = .ok text) :
    ∃ table, ledger.Shows matcher table ∧ text = "\n".intercalate (matcher.lines table) := by
  have unfolded : Operand.display ledger (.matcher matcher)
      = AccessMatcher.display ledger (Operand.nestingLimit - 1 + 1) matcher := rfl
  rw [unfolded, AccessMatcher.display] at printed
  unfold Ledger.Shows Ledger.shownRows
  by_cases resolved : (ledger.record matcher).resolved = true
  · rw [if_pos resolved] at printed ⊢
    obtain ⟨table, done, ended⟩ := (both_ok_iff _ _ _).mp printed
    cases ended
    refine ⟨table, ?_, rfl⟩
    apply ((map_ok_iff _ _ _).mp done).imp
    intro row texts shown
    rw [displays_map] at shown
    apply ((map_ok_iff _ row texts).mp shown).imp
    intro term text single
    exact shown_on_its_own ledger term text single
  · rw [if_neg resolved] at printed ⊢
    cases printed
    exact ⟨[], .nil, rfl⟩

theorem shown_full (table : List (List String)) (shows : ledger.Shows matcher table)
    (full : ∀ row ∈ (ledger.record matcher).rows, row.length = matcher.size) :
    ∀ row ∈ table, row.length = matcher.size := by
  intro row among
  obtain ⟨terms, shown, each⟩ := related_to shows row among
  rw [← each.length_eq]
  apply full terms
  unfold Ledger.shownRows at shown
  by_cases resolved : (ledger.record matcher).resolved = true
  · rwa [if_pos resolved] at shown
  · rw [if_neg resolved] at shown
    cases shown

theorem shows_expressions_iff (table : List (List String)) (shows : ledger.Shows matcher table) :
    ledger.ShowsExpressions matcher ↔ ∀ row ∈ table, ∀ text ∈ row, Text.Expressive text := by
  constructor
  · intro expressive row among text listed
    obtain ⟨terms, shown, each⟩ := related_to shows row among
    obtain ⟨term, held, printed⟩ := related_to each text listed
    exact expressive terms shown term held text printed
  · intro expressive terms shown term held text printed
    obtain ⟨row, among, each⟩ := related_to shows.flip terms shown
    obtain ⟨single, listed, display⟩ := related_to each.flip term held
    rw [← Except.ok.inj (display.symm.trans printed)]
    exact expressive row among single listed

end

/-- What a matcher has come to after any run of usages is told by its printed form: its kind, its labels,
how many bindings it shows, and a full table with the text of every term that it shows, which is printed
position by position. The terms are to print as single lines that begin with a brace or a bracket. -/
theorem printed_matcher_tells_table (usages otherUsages : List Usage) (matcher other : AccessMatcher)
    (text : String) (expressions : (Usage.performAll .blank usages).ShowsExpressions matcher)
    (otherExpressions : (Usage.performAll .blank otherUsages).ShowsExpressions other)
    (printed : Operand.display (Usage.performAll .blank usages) (.matcher matcher) = .ok text)
    (otherPrinted : Operand.display (Usage.performAll .blank otherUsages) (.matcher other) = .ok text) :
    matcher.kind = other.kind ∧ matcher.labels = other.labels
      ∧ ((Usage.performAll .blank usages).shownRows matcher).length
        = ((Usage.performAll .blank otherUsages).shownRows other).length
      ∧ ∃ table, (∀ row ∈ table, row.length = matcher.size)
        ∧ text = "\n".intercalate (matcher.lines table)
        ∧ (Usage.performAll .blank usages).Shows matcher table
        ∧ (Usage.performAll .blank otherUsages).Shows other table := by
  obtain ⟨table, shows, drawn⟩ := display_shows _ matcher text printed
  obtain ⟨otherTable, otherShows, otherDrawn⟩ := display_shows _ other text otherPrinted
  have full := shown_full _ matcher table shows (full_of_takes (Usage.rows_of_chronicle matcher usages))
  have otherFull := shown_full _ other otherTable otherShows
    (full_of_takes (Usage.rows_of_chronicle other otherUsages))
  obtain ⟨kinds, labels, tables⟩ := AccessMatcher.printed_told matcher other table otherTable full otherFull
    ((shows_expressions_iff _ matcher table shows).mp expressions)
    ((shows_expressions_iff _ other otherTable otherShows).mp otherExpressions) (drawn.symm.trans otherDrawn)
  rw [← tables] at otherShows
  exact ⟨kinds, labels, shows.length_eq.trans otherShows.length_eq.symm, table, full, drawn, shows, otherShows⟩

end

namespace AccessMatcher

def readPair (number : Nat) : AccessMatcher where
  kind := .read
  labels := [letterA, letterB]
  nonempty := List.cons_ne_nil _ _
  number := number

def pairUsages (matcher : AccessMatcher) (term : Int → Operand) : List Usage :=
  [.bind matcher [.constraint ⟨letterA, term 1, none⟩, .constraint ⟨letterB, term 2, none⟩],
    .bind matcher [.constraint ⟨letterA, term 3, none⟩, .constraint ⟨letterB, term 4, none⟩],
    .resolve matcher]

def listTerm (number : Int) : Operand := .items [] [.value (.int number)]

def textTerm (number : Int) : Operand := .value (.text ("[" ++ Value.decimal number ++ "]"))

def pairTable : List (List String) := [["[1]", "[2]"], ["[3]", "[4]"]]

theorem list_pair_shows :
    (Usage.performAll .blank (pairUsages (readPair 0) listTerm)).Shows (readPair 0) pairTable :=
  .cons (.cons rfl (.cons rfl .nil)) (.cons (.cons rfl (.cons rfl .nil)) .nil)

theorem text_pair_shows :
    (Usage.performAll .blank (pairUsages (readPair 1) textTerm)).Shows (readPair 1) pairTable :=
  .cons (.cons rfl (.cons rfl .nil)) (.cons (.cons rfl (.cons rfl .nil)) .nil)

def pairText : String := "@@@@@@\nRead matcher\na\nb\n[1]\n[3]\n[2]\n[4]\n@@@@@@"

theorem printed_matcher_tells_table_pair :
    Operand.display (Usage.performAll .blank (pairUsages (readPair 0) listTerm)) (.matcher (readPair 0))
        = .ok pairText
      ∧ Operand.display (Usage.performAll .blank (pairUsages (readPair 1) textTerm)) (.matcher (readPair 1))
        = .ok pairText
      ∧ ∃ table, (∀ row ∈ table, row.length = 2) ∧ pairText = "\n".intercalate ((readPair 0).lines table)
        ∧ (Usage.performAll .blank (pairUsages (readPair 0) listTerm)).Shows (readPair 0) table
        ∧ (Usage.performAll .blank (pairUsages (readPair 1) textTerm)).Shows (readPair 1) table := by
  have expressive : ∀ row ∈ pairTable, ∀ text ∈ row, Text.Expressive text := by decide
  have expressions := (shows_expressions_iff _ _ _ list_pair_shows).mpr expressive
  have otherExpressions := (shows_expressions_iff _ _ _ text_pair_shows).mpr expressive
  have printed : Operand.display (Usage.performAll .blank (pairUsages (readPair 0) listTerm))
      (.matcher (readPair 0)) = .ok pairText := rfl
  have otherPrinted : Operand.display (Usage.performAll .blank (pairUsages (readPair 1) textTerm))
      (.matcher (readPair 1)) = .ok pairText := rfl
  obtain ⟨_, _, _, table⟩ := printed_matcher_tells_table _ _ _ _ pairText expressions otherExpressions printed
    otherPrinted
  exact ⟨printed, otherPrinted, table⟩

end AccessMatcher

end ScheduleShape
