import Mathlib.Data.List.Nodup
import ScheduleShape.Proofs.Finder.Contribution

set_option autoImplicit false

namespace ScheduleShape

theorem any_eq_added {α β : Type} (row : α → β) (mine : α → Bool) (recorded : List α) :
    recorded.any mine = !((recorded.reverse.filter mine).map row).isEmpty := by
  rw [Bool.eq_iff_iff]
  simp

section

variable [Affine]

structure Booked (ledger : Ledger) (progress : Progress) : Prop where
  distinct : (progress.recorded.map Prod.fst).Nodup
  rows : ∀ matcher, (progress.ledger.record matcher).rows = (ledger.record matcher).rows
    ++ (progress.recorded.reverse.filter fun entry => entry.1.matcher = matcher).map fun entry => entry.2.terms
  resolved : ∀ matcher, (progress.ledger.record matcher).resolved
    = ((ledger.record matcher).resolved || progress.recorded.any fun entry => entry.1.matcher = matcher)

section

variable {ledger : Ledger}

theorem booked_start : Booked ledger ⟨ledger, [], []⟩ where
  distinct := List.nodup_nil
  rows matcher := by simp
  resolved matcher := by simp

theorem booked_record (progress : Progress) (key : CandidateKey) (list : ConstraintList)
    (booked : Booked ledger progress) (fresh : key ∉ progress.recorded.map Prod.fst) :
    Booked ledger
      { progress with
        ledger := (progress.ledger.addRow key.matcher list.terms).resolve key.matcher
        recorded := (key, list) :: progress.recorded } where
  distinct := List.nodup_cons.mpr ⟨fresh, booked.distinct⟩
  rows matcher := by
    by_cases same : key.matcher = matcher
    · subst same
      simp [booked.rows]
    · simp [same, booked.rows]
  resolved matcher := by
    by_cases same : key.matcher = matcher
    · subst same
      simp
    · simp [same, booked.resolved]

theorem booked_perform (progress : Progress) (deed : Deed) (booked : Booked ledger progress) :
    Booked ledger (deed.perform progress) := by
  cases deed with
  | tell event => exact ⟨booked.distinct, booked.rows, booked.resolved⟩
  | record key list =>
      rw [Deed.perform]
      by_cases known : key ∈ progress.recorded.map Prod.fst
      · rw [if_pos known]
        exact booked
      · rw [if_neg known]
        exact booked_record progress key list booked known

theorem booked_all (progress : Progress) (deeds : List Deed) (booked : Booked ledger progress) :
    Booked ledger (Deed.performAll progress deeds) := by
  induction deeds generalizing progress with
  | nil => exact booked
  | cons deed deeds ih => exact ih _ (booked_perform progress deed booked)

end

section

variable (progress : Progress) (deeds : List Deed)

theorem recorded_key (key : CandidateKey) (list : ConstraintList)
    (known : key ∈ progress.recorded.map Prod.fst ∨ .record key list ∈ deeds) :
    key ∈ (Deed.performAll progress deeds).recorded.map Prod.fst := by
  induction deeds generalizing progress with
  | nil => exact known.resolve_right List.not_mem_nil
  | cons deed deeds ih =>
      apply ih (deed.perform progress)
      cases deed with
      | tell event => simpa [Deed.perform] using known
      | record other list' =>
          rw [Deed.perform]
          by_cases here : other ∈ progress.recorded.map Prod.fst
          · rw [if_pos here]
            rcases known with known | later
            · exact .inl known
            · rcases List.mem_cons.mp later with same | later
              · cases same
                exact .inl here
              · exact .inr later
          · rw [if_neg here, List.map_cons, List.mem_cons]
            rcases known with known | later
            · exact .inl (.inr known)
            · rcases List.mem_cons.mp later with same | later
              · cases same
                exact .inl (.inl rfl)
              · exact .inr later

theorem recorded_deed (entry : CandidateKey × ConstraintList)
    (recorded : entry ∈ (Deed.performAll progress deeds).recorded) :
    entry ∈ progress.recorded ∨ .record entry.1 entry.2 ∈ deeds := by
  induction deeds generalizing progress with
  | nil => exact .inl recorded
  | cons deed deeds ih =>
      rcases ih (deed.perform progress) recorded with before | later
      · cases deed with
        | tell event => exact .inl before
        | record key list =>
            rw [Deed.perform] at before
            split at before
            · exact .inl before
            · rcases List.mem_cons.mp before with rfl | before
              · exact .inr List.mem_cons_self
              · exact .inl before
      · exact .inr (List.mem_cons_of_mem deed later)

end

namespace Finder

section

variable (finder : Finder)

def PairRecords (reader writer : AccessMatcher) (first second : ConstraintList × Nat)
    (key : CandidateKey) (list : ConstraintList) : Prop :=
  first.1.meets second.1 = true
    ∧ (key = ⟨.reads, reader, first.2⟩ ∧ list = first.1
      ∨ key = ⟨.writes, writer, second.2⟩ ∧ list = second.1)

theorem recorded_by_pair (reader writer : AccessMatcher) (first second : ConstraintList × Nat)
    (key : CandidateKey) (list : ConstraintList) :
    .record key list ∈ pairDeeds reader writer first second ↔
      PairRecords reader writer first second key list := by
  rw [PairRecords, pairDeeds, ConstraintList.meets, findingsOf]
  cases first.1.compare second.1 with
  | error fault => simp
  | ok agreed =>
      cases nothing : agreed.isEmpty <;> simp [nothing]

theorem meets_need_shared_label (reader writer : AccessMatcher) (first second : ConstraintList)
    (read : first ∈ finder.candidatesOn .reads reader) (written : second ∈ finder.candidatesOn .writes writer)
    (meets : first.meets second = true) : reader.sharesLabel writer = true := by
  rw [ConstraintList.meets] at meets
  cases compared : first.compare second with
  | error fault => simp [compared] at meets
  | ok agreed =>
      obtain ⟨_, _, _, nothing⟩ := compared_candidates reader writer _ _ first second read written agreed compared
      rw [compared] at meets
      cases shared : reader.sharesLabel writer with
      | true => rfl
      | false => simp [nothing shared] at meets

theorem recorded_by_hold (reader writer : AccessMatcher) (key : CandidateKey) (list : ConstraintList) :
    .record key list ∈ finder.holdDeeds reader writer ↔
      ∃ first ∈ (finder.candidatesOn .reads reader).zipIdx,
        ∃ second ∈ (finder.candidatesOn .writes writer).zipIdx,
          PairRecords reader writer first second key list := by
  rw [holdDeeds]
  cases shared : reader.sharesLabel writer with
  | true => simp only [if_true, List.mem_flatMap, recorded_by_pair]
  | false =>
      rw [if_neg (by simp)]
      refine iff_of_false (by simp) ?_
      rintro ⟨first, read, second, written, meets, _⟩
      have sharing := finder.meets_need_shared_label reader writer first.1 second.1
        (mem_of_numbered _ _ read) (mem_of_numbered _ _ written) meets
      rw [shared] at sharing
      cases sharing

theorem recorded_by_search (key : CandidateKey) (list : ConstraintList) :
    .record key list ∈ finder.deeds ↔ ∃ reader ∈ finder.readers, ∃ writer ∈ finder.writers,
      ∃ first ∈ (finder.candidatesOn .reads reader).zipIdx,
        ∃ second ∈ (finder.candidatesOn .writes writer).zipIdx,
          PairRecords reader writer first second key list := by
  have nowhere : ∀ accesses matchers, .record key list ∉ gatherDeeds accesses matchers := by
    simp [gatherDeeds]
  have closing : .record key list ∉ (if finder.nested.isEmpty then [Deed.tell .noAgreement] else []) := by
    split <;> simp
  simp only [deeds, List.mem_append, nowhere, closing, false_or, or_false, List.mem_flatMap, recorded_by_hold]

theorem recorded_by_search_iff (side : Side) (matcher : AccessMatcher) (place : Nat) (list : ConstraintList) :
    .record ⟨side, matcher, place⟩ list ∈ finder.deeds ↔ matcher ∈ finder.matchersOn side
      ∧ (finder.candidatesOn side matcher)[place]? = some list ∧ finder.answers side list = true := by
  simp only [recorded_by_search, PairRecords, List.mem_zipIdx_iff_getElem?]
  cases side with
  | reads =>
      simp only [answers, List.any_eq_true, List.mem_iff_getElem?]
      constructor
      · rintro ⟨reader, among, writer, among', first, read, second, written, meets, ⟨same, rfl⟩ | ⟨same, rfl⟩⟩
        · cases same
          exact ⟨among, read, writer, among', second.1, ⟨second.2, written⟩, meets⟩
        · cases same
      · rintro ⟨among, read, writer, among', other, ⟨place', written⟩, meets⟩
        exact ⟨matcher, among, writer, among', (list, place), read, (other, place'), written, meets,
          .inl ⟨rfl, rfl⟩⟩
  | writes =>
      simp only [answers, List.any_eq_true, List.mem_iff_getElem?]
      constructor
      · rintro ⟨reader, among, writer, among', first, read, second, written, meets, ⟨same, rfl⟩ | ⟨same, rfl⟩⟩
        · cases same
        · cases same
          exact ⟨among', written, reader, among, first.1, ⟨first.2, read⟩, meets⟩
      · rintro ⟨among', written, reader, among, other, ⟨place', read⟩, meets⟩
        exact ⟨reader, among, matcher, among', (other, place'), read, (list, place), written, meets,
          .inr ⟨rfl, rfl⟩⟩

def entriesOn (matcher : AccessMatcher) (side : Side) : List (CandidateKey × ConstraintList) :=
  if matcher ∈ finder.matchersOn side then
    ((finder.candidatesOn side matcher).zipIdx.filter fun entry => finder.answers side entry.1).map fun entry =>
      (⟨side, matcher, entry.2⟩, entry.1)
  else []

theorem mem_entries_on (matcher : AccessMatcher) (side : Side) (entry : CandidateKey × ConstraintList) :
    entry ∈ finder.entriesOn matcher side ↔
      entry.1.side = side ∧ entry.1.matcher = matcher ∧ Deed.record entry.1 entry.2 ∈ finder.deeds := by
  obtain ⟨⟨side', matcher', place⟩, list⟩ := entry
  rw [recorded_by_search_iff, entriesOn]
  by_cases listed : matcher ∈ finder.matchersOn side
  · rw [if_pos listed]
    simp only [List.mem_map, List.mem_filter, List.mem_zipIdx_iff_getElem?]
    constructor
    · rintro ⟨entry, ⟨found, answered⟩, same⟩
      cases same
      exact ⟨rfl, rfl, listed, found, answered⟩
    · rintro ⟨rfl, rfl, _, found, answered⟩
      exact ⟨(list, place), ⟨found, answered⟩, rfl⟩
  · rw [if_neg listed]
    constructor
    · intro among
      cases among
    · rintro ⟨rfl, rfl, listed', _⟩
      exact absurd listed' listed

theorem entries_on_nodup (matcher : AccessMatcher) (side : Side) : (finder.entriesOn matcher side).Nodup := by
  rw [entriesOn]
  by_cases listed : matcher ∈ finder.matchersOn side
  · rw [if_pos listed]
    apply List.Nodup.of_map fun entry : CandidateKey × ConstraintList => entry.1.place
    rw [List.map_map]
    have places : ((finder.candidatesOn side matcher).zipIdx.map Prod.snd).Nodup := by
      rw [List.zipIdx_map_snd]
      exact List.nodup_range'
    exact places.sublist (List.filter_sublist.map Prod.snd)
  · rw [if_neg listed]
    exact List.nodup_nil

theorem bindings_of_entries (matcher : AccessMatcher) (side : Side) :
    (finder.entriesOn matcher side).map (fun entry => entry.2.terms) = finder.bindingsOn matcher side := by
  rw [entriesOn, bindingsOn]
  by_cases listed : matcher ∈ finder.matchersOn side
  · rw [if_pos listed, if_pos listed, List.map_map]
    calc
      _ = (((finder.candidatesOn side matcher).zipIdx.map Prod.fst).filter
            (finder.answers side)).map ConstraintList.terms := by
        rw [List.filter_map, List.map_map]
        rfl
      _ = _ := by rw [List.zipIdx_map_fst]
  · rw [if_neg listed, if_neg listed]
    rfl

theorem recorded_iff (ledger : Ledger) (entry : CandidateKey × ConstraintList) :
    entry ∈ (Deed.performAll ⟨ledger, [], []⟩ finder.deeds).recorded ↔
      .record entry.1 entry.2 ∈ finder.deeds := by
  have told : ∀ entry ∈ (Deed.performAll ⟨ledger, [], []⟩ finder.deeds).recorded,
      .record entry.1 entry.2 ∈ finder.deeds :=
    fun entry recorded => (recorded_deed _ _ entry recorded).resolve_left List.not_mem_nil
  refine ⟨told entry, fun given => ?_⟩
  obtain ⟨key, list⟩ := entry
  obtain ⟨⟨_, other⟩, recorded, rfl⟩ :=
    List.mem_map.mp (recorded_key ⟨ledger, [], []⟩ finder.deeds key list (.inr given))
  have here := (finder.recorded_by_search_iff _ _ _ _).mp (told _ recorded)
  have there := (finder.recorded_by_search_iff _ _ _ _).mp given
  obtain ⟨_, same, _⟩ := there
  cases here.2.1.symm.trans same
  exact recorded

theorem filter_recorded_perm (recorded : List (CandidateKey × ConstraintList)) (distinct : recorded.Nodup)
    (known : ∀ entry, entry ∈ recorded ↔ Deed.record entry.1 entry.2 ∈ finder.deeds) (matcher : AccessMatcher) :
    (recorded.reverse.filter fun entry => entry.1.matcher = matcher).Perm
      (finder.entriesOn matcher .reads ++ finder.entriesOn matcher .writes) := by
  have apart : (finder.entriesOn matcher .reads ++ finder.entriesOn matcher .writes).Nodup := by
    rw [List.nodup_append]
    refine ⟨finder.entries_on_nodup matcher .reads, finder.entries_on_nodup matcher .writes, ?_⟩
    rintro entry read other written rfl
    have reading := ((finder.mem_entries_on matcher .reads entry).mp read).1
    have writing := ((finder.mem_entries_on matcher .writes entry).mp written).1
    rw [reading] at writing
    cases writing
  rw [List.perm_ext_iff_of_nodup ((List.nodup_reverse.mpr distinct).filter _) apart]
  intro entry
  simp only [List.mem_filter, List.mem_reverse, known, List.mem_append, mem_entries_on, decide_eq_true_eq]
  cases side : entry.1.side <;> simp [and_comm]

theorem bindings_of_recorded (recorded : List (CandidateKey × ConstraintList)) (distinct : recorded.Nodup)
    (known : ∀ entry, entry ∈ recorded ↔ Deed.record entry.1 entry.2 ∈ finder.deeds) (matcher : AccessMatcher) :
    ((recorded.reverse.filter fun entry => entry.1.matcher = matcher).map fun entry => entry.2.terms).Perm
      (finder.bindings matcher) := by
  rw [bindings, ← bindings_of_entries, ← bindings_of_entries, ← List.map_append]
  exact (finder.filter_recorded_perm recorded distinct known matcher).map _

end

theorem find_books (answers : Affine.Answers) (finder : Finder) (ledger : Ledger) (readable : ¬ finder.Refuses) :
    ∃ progress, finder.find ledger = .ok finder.nested progress ∧ ∀ matcher, ∃ added,
      (progress.ledger.record matcher).rows = (ledger.record matcher).rows ++ added
        ∧ added.Perm (finder.bindings matcher)
        ∧ (progress.ledger.record matcher).resolved
          = ((ledger.record matcher).resolved || !added.isEmpty) := by
  have booked : Booked ledger (Deed.performAll ⟨ledger, [], []⟩ finder.deeds) := booked_all _ _ booked_start
  refine ⟨_, finder.find_ends ledger answers readable, fun matcher => ⟨_, booked.rows matcher, ?_, ?_⟩⟩
  · exact finder.bindings_of_recorded _ booked.distinct.of_map (finder.recorded_iff ledger) matcher
  · rw [booked.resolved matcher, any_eq_added fun entry => entry.2.terms]

/-- A search for two relations always ends with its findings. It keeps what the records hold and
adds, up to order, one binding for each candidate of a matcher on either side that agrees with a
candidate of the other side. A matcher counts as resolved when it was or has got a binding. The binding
of a candidate is made of the outputs of its access in the order of the labels. -/
theorem find_records_each_candidate_once (answers : Affine.Answers) (finder : Finder) (reads writes : Relation)
    (ledger : Ledger) (reading : finder.reads = .relation reads) (writing : finder.writes = .relation writes) :
    (∃ findings progress, finder.find ledger = .ok findings progress ∧ ∀ matcher, ∃ added,
      (progress.ledger.record matcher).rows = (ledger.record matcher).rows ++ added
        ∧ added.Perm (finder.bindings matcher)
        ∧ (progress.ledger.record matcher).resolved
          = ((ledger.record matcher).resolved || !added.isEmpty))
    ∧ ∀ (matcher : AccessMatcher) (side : Side), ∀ list ∈ finder.candidatesOn side matcher,
      ∃ access expressions, access ∈ (side.choose reads writes).accesses
        ∧ Affine.arity access = matcher.size ∧ Yields access expressions
        ∧ list = .ofConstraints matcher.size ((matcher.labels.zip expressions).map constraintOf)
        ∧ list.terms = expressions.map .expression := by
  constructor
  · obtain ⟨progress, ended, records⟩ :=
      find_books answers finder ledger (finder.readable_of_relations reads writes reading writing)
    exact ⟨_, progress, ended, records⟩
  · intro matcher side list candidate
    have same : (side.choose finder.reads finder.writes).accesses = (side.choose reads writes).accesses := by
      cases side with
      | reads => rw [Side.choose, reading]; rfl
      | writes => rw [Side.choose, writing]; rfl
    rw [candidatesOn, same] at candidate
    obtain ⟨access, among, drawn⟩ := List.mem_filterMap.mp candidate
    obtain ⟨expressions, arity, yields, rfl⟩ := matcher.candidate_yields access list drawn
    exact ⟨access, expressions, among, arity, yields, rfl,
      terms_of_bindings _ _ _ (yields.counted.trans arity)⟩

end Finder

end

namespace Finder

def usedLedger : Ledger :=
  (Ledger.blank.addRow frontAlike [.value .null, .value .null, .value .null]).resolve frontAlike

theorem find_records_each_candidate_once_alike :
    Affine.Answers ∧ alikeFinder.reads = .relation (.union twoReads)
      ∧ alikeFinder.writes = .relation (.union twoWrites)
      ∧ (alikeFinder.bindings outerAlike).length = 3 ∧ (alikeFinder.bindings frontAlike).length = 1
      ∧ ∃ findings progress, alikeFinder.find usedLedger = .ok findings progress
        ∧ ∀ matcher, ∃ added, (progress.ledger.record matcher).rows
            = (usedLedger.record matcher).rows ++ added
          ∧ added.Perm (alikeFinder.bindings matcher)
          ∧ (progress.ledger.record matcher).resolved
            = ((usedLedger.record matcher).resolved || !added.isEmpty) :=
  ⟨boxes_answers, rfl, rfl, rfl, rfl,
    (find_records_each_candidate_once boxes_answers alikeFinder (.union twoReads) (.union twoWrites) _ rfl rfl).1⟩

end Finder

end ScheduleShape
