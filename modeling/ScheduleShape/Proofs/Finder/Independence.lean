import ScheduleShape.Finder.Usage
import ScheduleShape.Proofs.Finder.Recording

set_option autoImplicit false

namespace ScheduleShape

section

variable [Affine]

section

variable (progress : Progress) (ledger : Ledger)

theorem perform_other_ledger (deed : Deed) :
    ∃ after, deed.perform { progress with ledger } = { deed.perform progress with ledger := after } := by
  cases deed with
  | tell event => exact ⟨ledger, rfl⟩
  | record key list =>
      by_cases known : key ∈ progress.recorded.map Prod.fst
      · exact ⟨ledger, by simp only [Deed.perform, if_pos known]⟩
      · exact ⟨(ledger.addRow key.matcher list.terms).resolve key.matcher, by simp only [Deed.perform, if_neg known]⟩

theorem perform_all_other_ledger (deeds : List Deed) :
    ∃ after, Deed.performAll { progress with ledger } deeds
      = { Deed.performAll progress deeds with ledger := after } := by
  induction deeds generalizing progress ledger with
  | nil => exact ⟨ledger, rfl⟩
  | cons deed deeds ih =>
      obtain ⟨between, same⟩ := perform_other_ledger progress ledger deed
      obtain ⟨after, rest⟩ := ih (deed.perform progress) between
      refine ⟨after, ?_⟩
      change Deed.performAll (deed.perform { progress with ledger }) deeds = _
      rw [same]
      exact rest

end

namespace Finder

variable (finder : Finder)

theorem search_adds :
    ∃ report block, (Affine.Answers → ¬ finder.Refuses → ∃ findings, report.outcome = .ok findings)
      ∧ finder.Adds report block := by
  obtain ⟨done, outcome, _, ended⟩ := follows_deeds finder.performs_search
  let reached := fun ledger => Deed.performAll ⟨ledger, [], []⟩ done
  have alike : ∀ ledger, ∃ after, reached ledger = { reached .blank with ledger := after } := fun ledger =>
    perform_all_other_ledger ⟨.blank, [], []⟩ ledger done
  have told : ∀ ledger, (reached ledger).events = (reached .blank).events := by
    intro ledger
    obtain ⟨after, equal⟩ := alike ledger
    rw [equal]
  have entries : ∀ ledger, (reached ledger).recorded = (reached .blank).recorded := by
    intro ledger
    obtain ⟨after, equal⟩ := alike ledger
    rw [equal]
  have same : ∀ ledger,
      finder.report ledger = (⟨outcome, (reached .blank).events⟩, (reached ledger).ledger) := by
    intro ledger
    obtain ⟨answer, state⟩ := ended ⟨ledger, [], []⟩
    rw [← told ledger]
    exact congrArg₂ (fun answer (state : Progress) => (Report.mk answer state.events, state.ledger)) answer state
  have booked : ∀ ledger, Booked ledger (reached ledger) := fun ledger => booked_all _ _ booked_start
  refine ⟨⟨outcome, (reached .blank).events⟩, fun matcher =>
    ((reached .blank).recorded.reverse.filter fun entry => entry.1.matcher = matcher).map fun entry => entry.2.terms,
    fun answers readable => ?_, fun ledger => ?_, fun ledger matcher => ?_, fun ledger matcher => ?_⟩
  · have found := (ended ⟨.blank, [], []⟩).1
    rw [follows_sure finder.performs_search ⟨answers, readable⟩] at found
    exact ⟨_, found.symm⟩
  · rw [same ledger]
  · rw [same ledger, (booked ledger).rows matcher, entries ledger]
  · rw [same ledger, (booked ledger).resolved matcher, any_eq_added fun entry => entry.2.terms, entries ledger]

theorem reports_of_adds (report : Report) (block : AccessMatcher → List (List Operand))
    (adds : finder.Adds report block) (count : Nat) (ledger : Ledger) :
    (finder.reports count ledger).1 = List.replicate count report
      ∧ ∀ matcher, ((finder.reports count ledger).2.record matcher).rows
        = (ledger.record matcher).rows ++ (List.replicate count (block matcher)).flatten := by
  induction count generalizing ledger with
  | zero => exact ⟨rfl, fun matcher => by simp [reports]⟩
  | succ count ih =>
      obtain ⟨later, rows⟩ := ih (finder.report ledger).2
      constructor
      · rw [reports, later, adds.reported ledger, List.replicate_succ]
      · intro matcher
        rw [reports, rows matcher, adds.rows ledger matcher, List.append_assoc, List.replicate_succ,
          List.flatten_cons]

end Finder

theorem Record.blank_sound : Record.blank.Sound := iff_of_false Bool.false_ne_true (Nat.lt_irrefl 0)

namespace Usage

variable (ledger : Ledger) (matcher : AccessMatcher)

theorem perform_search (finder : Finder) : (search finder).perform ledger = (finder.report ledger).2 := by
  change stateOf (run (search finder) ledger) = (stateOf (finder.find ledger)).ledger
  rw [run]
  dsimp only
  cases finder.find ledger <;> rfl

theorem perform_keeps_sound (usage : Usage) (elsewhere : usage.byHand? ≠ some matcher)
    (sound : (ledger.record matcher).Sound) : ((perform ledger usage).record matcher).Sound := by
  cases usage with
  | search finder =>
      obtain ⟨report, block, _, adds⟩ := finder.search_adds
      rw [Record.Sound] at sound
      rw [Record.Sound, perform_search, adds.resolved ledger matcher, adds.rows ledger matcher, Bool.or_eq_true, sound,
        List.length_append, Nat.add_pos_iff_pos_or_pos, List.length_pos_iff (l := block matcher)]
      simp
  | bind other members =>
      have different : other ≠ matcher := fun same => elsewhere (congrArg some same)
      rw [perform, run]
      cases taken : other.row members with
      | error fault =>
          rw [Ledger.bind_refused ledger other members fault taken]
          exact sound
      | ok row =>
          rw [Ledger.bind_of_row ledger other members row taken]
          change ((ledger.addRow other row).record matcher).Sound
          simpa [Ledger.addRow, different] using sound
  | resolve other =>
      have different : other ≠ matcher := fun same => elsewhere (congrArg some same)
      change ((ledger.resolve other).record matcher).Sound
      simpa [Ledger.resolve, different] using sound

theorem perform_all_keeps_sound (usages : List Usage)
    (elsewhere : ∀ usage ∈ usages, usage.byHand? ≠ some matcher)
    (sound : (ledger.record matcher).Sound) : ((performAll ledger usages).record matcher).Sound := by
  induction usages generalizing ledger with
  | nil => exact sound
  | cons usage usages ih =>
      have here := perform_keeps_sound ledger matcher usage (elsewhere usage List.mem_cons_self) sound
      exact ih (perform ledger usage) (fun later among => elsewhere later (List.mem_cons_of_mem usage among)) here

end Usage

namespace Finder

/-- A search reports the same and adds the same rows to each matcher, whatever the records are, and it
reports findings when the library answers and what is read and written are relations. So searches in a
row all report the same, and leave each matcher with its rows followed by one copy of what is added for
each search. A matcher whose record has been changed by searches only is resolved just when it has a
row. -/
theorem find_ignores_records (finder : Finder) :
    (∃ report block, (Affine.Answers → ¬ finder.Refuses → ∃ findings, report.outcome = .ok findings)
      ∧ finder.Adds report block
      ∧ ∀ count ledger, (finder.reports count ledger).1 = List.replicate count report
        ∧ ∀ matcher, ((finder.reports count ledger).2.record matcher).rows
          = (ledger.record matcher).rows ++ (List.replicate count (block matcher)).flatten)
    ∧ ∀ usages ledger matcher, ledger.record matcher = .blank →
      (∀ usage ∈ usages, Usage.byHand? usage ≠ some matcher) →
        ((Usage.performAll ledger usages).record matcher).Sound := by
  constructor
  · obtain ⟨report, block, found, adds⟩ := search_adds finder
    exact ⟨report, block, found, adds, reports_of_adds finder report block adds⟩
  · intro usages ledger matcher fresh elsewhere
    apply Usage.perform_all_keeps_sound ledger matcher usages elsewhere
    rw [fresh]
    exact Record.blank_sound

end Finder

end

namespace Finder

theorem find_ignores_records_alike :
    Affine.Answers ∧ ¬ alikeFinder.Refuses
      ∧ (∃ findings, (alikeFinder.report usedLedger).1.outcome = .ok findings)
      ∧ (alikeFinder.reports 3 usedLedger).1.length = 3
      ∧ ((alikeFinder.reports 3 usedLedger).2.record frontAlike).rows.length = 4
      ∧ ((Usage.performAll .blank [.search alikeFinder, .resolve frontAlike]).record outerAlike).Sound := by
  obtain ⟨⟨report, block, found, adds, _⟩, sound⟩ := find_ignores_records alikeFinder
  have readable := alikeFinder.readable_of_relations (.union twoReads) (.union twoWrites) rfl rfl
  refine ⟨boxes_answers, readable, ?_, rfl, by decide +kernel, ?_⟩
  · rw [adds.reported]
    exact found boxes_answers readable
  · exact sound [.search alikeFinder, .resolve frontAlike] .blank outerAlike rfl (by decide)

end Finder

end ScheduleShape
