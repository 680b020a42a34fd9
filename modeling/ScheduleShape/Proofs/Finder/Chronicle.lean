import Mathlib.Data.List.Forall2
import ScheduleShape.Proofs.Access.Record
import ScheduleShape.Proofs.Finder.Independence

set_option autoImplicit false

namespace ScheduleShape

section

variable [Affine]

def AccessMatcher.Takes (matcher : AccessMatcher) (sequences rows : List (List Operand)) : Prop :=
  List.Forall₂ (fun members row => matcher.row members = .ok row) sequences rows

theorem Finder.search_takes (finder : Finder) (ledger : Ledger) (matcher : AccessMatcher) :
    ∃ added, ((finder.report ledger).2.record matcher).rows = (ledger.record matcher).rows ++ added
      ∧ matcher.Takes (finder.recordings ledger matcher) added := by
  obtain ⟨done, _, fitting, ended⟩ := follows_deeds finder.performs_search
  have reached : stateOf (finder.find ledger) = Deed.performAll ⟨ledger, [], []⟩ done := (ended _).2
  have booked : Booked ledger (Deed.performAll ⟨ledger, [], []⟩ done) := booked_all _ _ booked_start
  refine ⟨((Deed.performAll ⟨ledger, [], []⟩ done).recorded.reverse.filter fun entry =>
    entry.1.matcher = matcher).map fun entry => entry.2.terms, ?_, ?_⟩
  · change ((stateOf (finder.find ledger)).ledger.record matcher).rows = _
    rw [reached]
    exact booked.rows matcher
  · rw [recordings, reached, AccessMatcher.Takes, List.forall₂_map_left_iff, List.forall₂_map_right_iff,
      List.forall₂_same]
    intro entry among
    obtain ⟨recorded, mine⟩ := List.mem_filter.mp among
    have given := (recorded_deed _ _ entry (List.mem_reverse.mp recorded)).resolve_left List.not_mem_nil
    rw [← of_decide_eq_true mine]
    exact fitting _ given

namespace Usage

variable (ledger : Ledger) (matcher : AccessMatcher)

theorem bind_takes (other : AccessMatcher) (members : List Operand) :
    ∃ added, ((perform ledger (.bind other members)).record matcher).rows
        = (ledger.record matcher).rows ++ added
      ∧ matcher.Takes (recordings ledger matcher (.bind other members)) added := by
  rw [perform, run, recordings]
  cases taken : other.row members with
  | error fault =>
      rw [Ledger.bind_refused ledger other members fault taken]
      exact ⟨[], (List.append_nil _).symm, .nil⟩
  | ok row =>
      rw [Ledger.bind_of_row ledger other members row taken]
      change ∃ added, ((ledger.addRow other row).record matcher).rows = _ ∧ _
      by_cases same : other = matcher
      · subst same
        refine ⟨[row], by simp [Ledger.addRow], ?_⟩
        rw [if_pos rfl]
        exact .cons taken .nil
      · refine ⟨[], by simp [Ledger.addRow, same], ?_⟩
        rw [if_neg same]
        exact .nil

theorem resolve_takes (other : AccessMatcher) :
    ((perform ledger (.resolve other)).record matcher).rows = (ledger.record matcher).rows := by
  change ((ledger.resolve other).record matcher).rows = _
  rw [Ledger.resolve]
  by_cases same : other = matcher
  · simp [same]
  · simp [same]

theorem perform_takes (usage : Usage) :
    ∃ added, ((perform ledger usage).record matcher).rows = (ledger.record matcher).rows ++ added
      ∧ matcher.Takes (usage.recordings ledger matcher) added := by
  cases usage with
  | search finder =>
      rw [perform_search]
      exact finder.search_takes ledger matcher
  | bind other members => exact bind_takes ledger matcher other members
  | resolve other => exact ⟨[], by rw [resolve_takes, List.append_nil], .nil⟩

theorem perform_all_takes (usages : List Usage) :
    ∃ added, ((performAll ledger usages).record matcher).rows = (ledger.record matcher).rows ++ added
      ∧ matcher.Takes (chronicle ledger matcher usages) added := by
  induction usages generalizing ledger with
  | nil => exact ⟨[], (List.append_nil _).symm, .nil⟩
  | cons usage usages ih =>
      obtain ⟨here, grown, taken⟩ := perform_takes ledger matcher usage
      obtain ⟨later, grownLater, takenLater⟩ := ih (perform ledger usage)
      refine ⟨here ++ later, ?_, List.rel_append taken takenLater⟩
      rw [← List.append_assoc, ← grown]
      exact grownLater

theorem rows_of_chronicle (usages : List Usage) :
    matcher.Takes (chronicle .blank matcher usages) ((performAll .blank usages).record matcher).rows := by
  obtain ⟨added, grown, taken⟩ := perform_all_takes .blank matcher usages
  rw [grown]
  exact taken

end Usage

section

variable {matcher : AccessMatcher} {chronicle rows : List (List Operand)}

theorem fits_of_takes (taken : matcher.Takes chronicle rows) : ∀ members ∈ chronicle, matcher.Fits members := by
  induction taken with
  | nil => intro members among; cases among
  | cons here _ ih =>
      intro members among
      rcases List.mem_cons.mp among with same | later
      · rw [same]
        exact matcher.fits_of_row _ _ here
      · exact ih members later

theorem full_of_takes (taken : matcher.Takes chronicle rows) : ∀ row ∈ rows, row.length = matcher.size := by
  induction taken with
  | nil => intro row among; cases among
  | cons here _ ih =>
      intro row among
      rcases List.mem_cons.mp among with same | later
      · rw [same]
        exact matcher.row_full _ _ here
      · exact ih row later

theorem tabulates_of_takes (record : Record) (taken : matcher.Takes chronicle record.rows) :
    record.Tabulates matcher chronicle where
  fitting := fits_of_takes taken
  counted := (List.Forall₂.length_eq taken).symm
  full := full_of_takes taken
  columns position within := by
    obtain ⟨column, read, held⟩ := record.column_of_full matcher.size (full_of_takes taken) position within
    refine ⟨column, read, by simpa using congrArg List.length held, fun count members found => ?_⟩
    have counted : count < record.rows.length := by
      rw [← List.Forall₂.length_eq taken]
      exact (List.getElem?_eq_some_iff.mp found).1
    have row := List.Forall₂.get taken (List.getElem?_eq_some_iff.mp found).1 counted
    rw [List.get_eq_getElem, (List.getElem?_eq_some_iff.mp found).2] at row
    obtain ⟨constraint, standing, term⟩ := matcher.row_position members _ row position within
    refine ⟨constraint, standing, ?_⟩
    have entry := congrArg (·[count]?) held
    simp only [List.getElem?_map, List.getElem?_eq_getElem counted, Option.map_some] at entry
    obtain ⟨read', found', same⟩ := Option.map_eq_some_iff.mp entry
    rw [found', same]
    exact term

end

/-- After any run of searches, of sequences given by hand and of declarations that a matcher is resolved,
the record of a matcher is the table of what it has taken in. A sequence given by hand is taken in just
when its members are constraints with the labels of the matcher in their order, and one that is refused
leaves all records as they are. -/
theorem record_tabulates_chronicle (usages : List Usage) (matcher : AccessMatcher) :
    (∀ members, (∃ after, Ledger.bind matcher members (Usage.performAll .blank usages) = .ok () after)
        ↔ members.map Operand.label? = matcher.labels.map some)
      ∧ (∀ members fault after, Ledger.bind matcher members (Usage.performAll .blank usages) = .error fault after →
        after = Usage.performAll .blank usages)
      ∧ ((Usage.performAll .blank usages).record matcher).Tabulates matcher
        (Usage.chronicle .blank matcher usages) := by
  exact ⟨fun members => Ledger.bind_ok_iff _ matcher members,
    fun members fault after => Ledger.bind_keeps _ after matcher members fault,
    tabulates_of_takes _ (Usage.rows_of_chronicle matcher usages)⟩

end

namespace Finder

def constraintsFor (labels : List Label) : List Operand :=
  labels.map fun label => .constraint { label, term := .value (.text label.text) }

def mixedUsages : List Usage :=
  [.bind frontAlike (constraintsFor [letterA, letterB, letterA]),
    .bind frontAlike [.constraint { label := letterA, term := .value .null }, .value .null, .value .null],
    .bind frontAlike (constraintsFor [letterA, letterA, letterB]),
    .search alikeFinder,
    .bind frontAlike (constraintsFor [letterA])]

theorem record_tabulates_chronicle_mixed :
    (Usage.chronicle .blank frontAlike mixedUsages).length = 2
      ∧ (∃ fault after, Ledger.bind frontAlike [.value .null] (Usage.performAll .blank mixedUsages) = .error fault after
        ∧ after = Usage.performAll .blank mixedUsages)
      ∧ (∃ after, Ledger.bind frontAlike (constraintsFor [letterA, letterA, letterB])
        (Usage.performAll .blank mixedUsages) = .ok () after)
      ∧ ((Usage.performAll .blank mixedUsages).record frontAlike).Tabulates frontAlike
        (Usage.chronicle .blank frontAlike mixedUsages) := by
  obtain ⟨taken, refused, table⟩ := record_tabulates_chronicle mixedUsages frontAlike
  exact ⟨by decide +kernel, ⟨_, _, rfl, refused [.value .null] _ _ rfl⟩,
    (taken (constraintsFor [letterA, letterA, letterB])).mpr rfl, table⟩

end Finder

end ScheduleShape
