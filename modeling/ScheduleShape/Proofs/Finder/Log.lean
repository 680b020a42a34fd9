import ScheduleShape.Finder.Log
import ScheduleShape.Proofs.Finder.Search

set_option autoImplicit false

namespace ScheduleShape

section

variable [Affine]

theorem perform_all_events (progress : Progress) (deeds : List Deed) :
    (Deed.performAll progress deeds).events = progress.events ++ deeds.filterMap Deed.event? := by
  induction deeds generalizing progress with
  | nil => exact (List.append_nil _).symm
  | cons deed deeds ih =>
      change (Deed.performAll (deed.perform progress) deeds).events = _
      rw [ih]
      cases deed with
      | tell event =>
          have told : (Deed.tell event).event? = some event := rfl
          rw [List.filterMap_cons_some told, Deed.perform, List.append_assoc, List.singleton_append]
      | record key list =>
          have silent : (Deed.record key list).event? = none := rfl
          rw [List.filterMap_cons_none silent, Deed.perform]
          split <;> rfl

@[simp]
theorem tells_told (events : List Event) : (events.map Deed.tell).filterMap Deed.event? = events := by
  rw [List.filterMap_map]
  exact List.filterMap_some

theorem filter_told {α : Type} (sort : Event → Bool) (tell : α → Event) (answer : Bool)
    (same : ∀ item, sort (tell item) = answer) (items : List α) :
    (items.map tell).filter sort = if answer then items.map tell else [] := by
  cases answer with
  | true => simp [List.filter_eq_self, same]
  | false => simp [List.filter_eq_nil_iff, same]

namespace Finder

section

variable (finder : Finder)

theorem flat_map_trials {β : Type} (f : Trial → List β) :
    finder.trials.flatMap f = finder.readers.flatMap fun reader =>
      finder.writers.flatMap fun writer => if reader.sharesLabel writer then
        (finder.candidatesOn .reads reader).flatMap fun first =>
          (finder.candidatesOn .writes writer).flatMap fun second => f ⟨reader, writer, first, second⟩
      else [] := by
  simp only [trials, List.flatMap_assoc]
  congr 1
  funext reader
  congr 1
  funext writer
  cases reader.sharesLabel writer with
  | true => simp only [if_true, List.flatMap_assoc, List.flatMap_map]
  | false => rfl

theorem trial_findings : finder.trials.flatMap Trial.findings = finder.nested := by
  rw [flat_map_trials, nested]
  congr 1
  funext reader
  congr 1
  funext writer
  cases shared : reader.sharesLabel writer with
  | true => rfl
  | false => exact (finder.findings_need_shared_label reader writer shared).symm

theorem mem_trials (trial : Trial) (among : trial ∈ finder.trials) :
    trial.first ∈ finder.candidatesOn .reads trial.reader
      ∧ trial.second ∈ finder.candidatesOn .writes trial.writer := by
  simp only [trials, List.mem_flatMap] at among
  obtain ⟨reader, _, writer, _, among⟩ := among
  cases shared : reader.sharesLabel writer with
  | true =>
      rw [shared, if_pos rfl] at among
      simp only [List.mem_flatMap, List.mem_map] at among
      obtain ⟨first, read, second, written, rfl⟩ := among
      exact ⟨read, written⟩
  | false =>
      rw [shared] at among
      cases among

theorem pair_told (reader writer : AccessMatcher) (first second : ConstraintList × Nat) :
    (pairDeeds reader writer first second).filterMap Deed.event?
      = Trial.told ⟨reader, writer, first.1, second.1⟩ := by
  have each : ∀ finding : Finding, List.filterMap Deed.event?
      [.tell finding.announcement, .record ⟨.reads, reader, first.2⟩ first.1,
        .record ⟨.writes, writer, second.2⟩ second.1]
        = [finding.announcement] := fun _ => rfl
  rw [pairDeeds, List.filterMap_append, tells_told, List.filterMap_flatMap, Trial.told, List.map_eq_flatMap]
  simp only [each, Trial.findings]

theorem hold_told (reader writer : AccessMatcher) :
    (finder.holdDeeds reader writer).filterMap Deed.event? = if reader.sharesLabel writer then
      (finder.candidatesOn .reads reader).flatMap fun first =>
        (finder.candidatesOn .writes writer).flatMap fun second => Trial.told ⟨reader, writer, first, second⟩
    else [] := by
  rw [holdDeeds]
  cases reader.sharesLabel writer with
  | true =>
      simp only [if_true, List.filterMap_flatMap, pair_told]
      rw [← flat_map_numbered (finder.candidatesOn .reads reader)]
      congr 1
      funext first
      exact flat_map_numbered (finder.candidatesOn .writes writer)
        fun second => Trial.told ⟨reader, writer, first.1, second⟩
  | false => rfl

theorem gather_told (accesses : List Access) (matchers : List AccessMatcher) :
    (gatherDeeds accesses matchers).filterMap Deed.event? = matchers.flatMap (·.rejections accesses) := by
  simp only [gatherDeeds, List.filterMap_flatMap, tells_told]

theorem deeds_told : finder.deeds.filterMap Deed.event? = finder.log := by
  have closed : (if finder.nested.isEmpty then [Deed.tell .noAgreement] else []).filterMap
      Deed.event? = finder.closing := by
    rw [closing]
    split <;> rfl
  rw [deeds, List.filterMap_append, List.filterMap_append, List.filterMap_append, gather_told, gather_told, closed,
    log, flat_map_trials]
  simp only [List.filterMap_flatMap, hold_told]

end

theorem reason_cases (matcher : AccessMatcher) (access : Access) (event : Event)
    (reason : (matcher.verdict? access).bind Verdict.reason? = some event) :
    event = .notFunction access ∨ event = .labelsDisagree matcher.labels access := by
  obtain ⟨verdict, given, told⟩ := Option.bind_eq_some_iff.mp reason
  have judged : matcher.judge access = .ok verdict := by
    rw [AccessMatcher.verdict?] at given
    split at given
    · cases answer : matcher.judge access with
      | error fault =>
          rw [answer] at given
          cases given
      | ok other =>
          rw [answer] at given
          cases given
          rfl
    · cases given
  obtain ⟨found, _, further⟩ := (both_ok_iff _ _ _).mp judged
  cases found with
  | none =>
      cases further
      cases told
      exact .inl rfl
  | some expressions =>
      obtain ⟨alike, _, ended⟩ := (both_ok_iff _ _ _).mp further
      cases alike with
      | true =>
          cases ended
          cases told
      | false =>
          cases ended
          cases told
          exact .inr rfl

theorem told_of_trial (finder : Finder) (trial : Trial) (among : trial ∈ finder.trials) :
    trial.told = ([trial].filter Trial.uneven).map Trial.denial ++ trial.findings.map Finding.announcement := by
  obtain ⟨read, written⟩ := finder.mem_trials trial among
  obtain ⟨expressions, _, first⟩ := trial.reader.candidate_bound _ _ read
  obtain ⟨others, _, second⟩ := trial.writer.candidate_bound _ _ written
  rw [Trial.told, ConstraintList.comparisonEvents, first, second, ConstraintList.not_empty_of_constraints,
    ConstraintList.not_empty_of_constraints]
  by_cases even : trial.reader.size = trial.writer.size
  · simp [ConstraintList.ofConstraints, Trial.uneven, even]
  · have differ : (trial.reader.size : Int) ≠ trial.writer.size := by omega
    simp [ConstraintList.ofConstraints, Trial.uneven, Trial.denial, even, differ]

-- Entries are sorted by what they tell; rejected accesses belong to none of the sorts.
section

variable (finder : Finder) (sort : Event → Bool) (denies announces concludes : Bool)
  (single : ∀ access, sort (.notFunction access) = false)
  (repeats : ∀ labels access, sort (.labelsDisagree labels access) = false)
  (denial : ∀ trial : Trial, sort trial.denial = denies)
  (announcement : ∀ finding : Finding, sort finding.announcement = announces)
  (conclusion : sort .noAgreement = concludes)

include single repeats in
theorem rejections_filter (matcher : AccessMatcher) (accesses : List Access) :
    (matcher.rejections accesses).filter sort = [] := by
  rw [List.filter_eq_nil_iff]
  intro event told
  obtain ⟨access, _, reason⟩ := List.mem_filterMap.mp told
  obtain rfl | rfl := reason_cases matcher access event reason
  · simp [single]
  · simp [repeats]

include conclusion in
theorem closing_filter : finder.closing.filter sort
    = if concludes then finder.closing else [] := by
  rw [closing]
  by_cases nothing : finder.nested.isEmpty = true
  · rw [if_pos nothing, List.filter_singleton, conclusion, cond_eq_ite]
  · rw [if_neg nothing, List.filter_nil, ite_self]

include single repeats denial announcement conclusion in
theorem log_filter : finder.log.filter sort
    = (finder.trials.flatMap fun trial =>
        (if denies then ([trial].filter Trial.uneven).map Trial.denial else [])
          ++ if announces then trial.findings.map Finding.announcement else [])
      ++ if concludes then finder.closing else [] := by
  have quiet : ∀ accesses (matchers : List AccessMatcher),
      (matchers.flatMap (·.rejections accesses)).filter sort = [] := by
    intro accesses matchers
    rw [List.filter_flatMap, List.flatMap_eq_nil_iff]
    intro matcher _
    exact rejections_filter sort single repeats matcher accesses
  have each : ∀ trial ∈ finder.trials, trial.told.filter sort
      = (if denies then ([trial].filter Trial.uneven).map Trial.denial else [])
        ++ if announces then trial.findings.map Finding.announcement else [] := by
    intro trial among
    rw [told_of_trial finder trial among, List.filter_append, filter_told sort _ denies denial,
      filter_told sort _ announces announcement]
  rw [log, List.filter_append, List.filter_append, List.filter_append, quiet, quiet, List.nil_append, List.nil_append,
    List.filter_flatMap, List.flatMap_congr each, closing_filter finder sort concludes conclusion]

end

section

variable (finder : Finder)

theorem log_announces :
    finder.log.filter Event.announces = finder.nested.map Finding.announcement := by
  rw [log_filter finder Event.announces false true false (fun _ => rfl) (fun _ _ => rfl) (fun _ => rfl)
    (fun _ => rfl) rfl]
  simp only [Bool.false_eq_true, if_false, if_true, List.nil_append, List.append_nil]
  rw [← List.map_flatMap, trial_findings]

theorem log_concludes : finder.log.filter Event.concludes = finder.closing := by
  rw [log_filter finder Event.concludes false false true (fun _ => rfl) (fun _ _ => rfl) (fun _ => rfl)
    (fun _ => rfl) rfl]
  simp

theorem log_denies : finder.log.filter Event.deniesComparison
    = (finder.trials.filter Trial.uneven).map Trial.denial := by
  rw [log_filter finder Event.deniesComparison true false false (fun _ => rfl) (fun _ _ => rfl)
    (fun _ => rfl) (fun _ => rfl) rfl]
  simp only [Bool.false_eq_true, if_false, if_true, List.append_nil]
  rw [← List.map_flatMap, ← List.filter_flatMap, List.flatMap_singleton']

theorem announcement_reads (finding : Finding) (constraints : List Constraint)
    (listed : finding.agreed.constraints = .ok constraints) : finding.ReadsAs finding.announcement.message := by
  have named : finding.agreed.labels.map Label.text = constraints.map fun constraint => constraint.label.text := by
    rw [labels_of_constraints finding.agreed constraints listed, List.map_map]
    rfl
  rw [Finding.ReadsAs]
  refine ⟨constraints, listed, ?_⟩
  rw [← named]
  rfl

theorem findings_announced (finding : Finding) (among : finding ∈ finder.nested) :
    finding.ReadsAs finding.announcement.message := by
  obtain ⟨_, constraints, listed, _⟩ := finder.agreed_of_nested finding among
  exact announcement_reads finding constraints listed

end

/-- The log of a search that ends agrees with its findings. The announcements stand for the findings, one
for each and in their order, and name the reader, the writer and the labels of what they agree on. That
nothing agrees is said once, at the end, just when there are no findings. That candidates cannot be
compared is said once for every two candidates of a reader and a writer that share a label and have
different numbers of labels, in the order of the search. -/
theorem log_agrees_with_findings (finder : Finder) (ledger : Ledger) (findings : List Finding)
    (progress : Progress) (ended : finder.find ledger = .ok findings progress) :
    finder.Logs findings progress.events := by
  obtain ⟨rfl, rfl⟩ := finder.find_ok ledger findings progress ended
  have told := perform_all_events ⟨ledger, [], []⟩ finder.deeds
  rw [deeds_told, List.nil_append] at told
  rw [told]
  refine ⟨?_, ?_, ?_, finder.log_denies⟩
  · rw [log_announces, List.map_map, List.forall₂_map_right_iff, List.forall₂_same]
    exact finder.findings_announced
  · rw [log_concludes, closing]
    by_cases nothing : finder.nested = []
    · rw [if_pos nothing, nothing]
      rfl
    · rw [if_neg nothing, if_neg (by simpa using nothing)]
      rfl
  · intro nothing
    rw [log, closing, nothing, ← List.append_assoc, ← List.append_assoc]
    exact ⟨_, rfl⟩

end Finder

end

namespace Finder

def unevenWrites : BoxUnion where
  params := []
  accesses := touching "E" [[1, 0], [0, 1]] :: twoWrites.accesses

def shortWriter : AccessMatcher where
  kind := .write
  labels := [letterB, letterA]
  nonempty := List.cons_ne_nil _ _
  number := 2

def unevenFinder : Finder :=
  ofMatchers (.relation (.union twoReads)) (.relation (.union unevenWrites)) [shortWriter, outerAlike]

theorem log_agrees_with_findings_uneven :
    (unevenFinder.trials.filter Trial.uneven).length = 2
      ∧ ∃ findings progress, unevenFinder.find .blank = .ok findings progress
        ∧ findings.length = 1 ∧ unevenFinder.Logs findings progress.events :=
  ⟨rfl, _, _, rfl, rfl, log_agrees_with_findings unevenFinder .blank _ _ rfl⟩

end Finder

end ScheduleShape
