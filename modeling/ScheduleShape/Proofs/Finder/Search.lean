import ScheduleShape.Finder.Deed
import ScheduleShape.Proofs.Constraint.Candidates
import ScheduleShape.Proofs.Constraint.Selection

set_option autoImplicit false

namespace ScheduleShape

theorem flat_map_numbered {α β : Type} (items : List α) (found : α → List β) :
    (items.zipIdx.flatMap fun entry => found entry.1) = items.flatMap found := by
  rw [← List.flatMap_map, List.zipIdx_map_fst]

theorem mem_of_numbered {α : Type} (items : List α) (entry : α × Nat)
    (numbered : entry ∈ items.zipIdx) : entry.1 ∈ items := by
  rw [← List.zipIdx_map_fst 0 items]
  exact List.mem_map_of_mem numbered

section

variable [Affine]

theorem labels_of_constraints (list : ConstraintList) (constraints : List Constraint)
    (held : list.constraints = .ok constraints) : list.labels = constraints.map Constraint.label := by
  rw [ConstraintList.constraints] at held
  rw [ConstraintList.labels]
  generalize list.members = members at held
  induction members generalizing constraints with
  | nil =>
      cases held
      rfl
  | cons member members ih =>
      cases member with
      | constraint first =>
          rw [ConstraintList.constraintsOf] at held
          cases rest : ConstraintList.constraintsOf members with
          | error fault =>
              rw [rest] at held
              cases held
          | ok later =>
              rw [rest] at held
              cases held
              have named : Operand.label? (.constraint first) = some first.label := rfl
              rw [List.filterMap_cons_some named, ih later rest]
              rfl
      | _ => cases held

def Operand.Unreadable (operand : Operand) (matchers : List AccessMatcher) : Prop :=
  matchers ≠ [] ∧ ∀ relation, operand ≠ .relation relation

def Finder.Refuses (finder : Finder) : Prop :=
  finder.reads.Unreadable finder.readers ∨ finder.writes.Unreadable finder.writers

@[simp]
theorem perform_all_tells (progress : Progress) (events : List Event) :
    Deed.performAll progress (events.map .tell) = { progress with events := progress.events ++ events } := by
  induction events generalizing progress with
  | nil => simp [Deed.performAll]
  | cons event events ih =>
      change Deed.performAll { progress with events := progress.events ++ [event] } _ = _
      rw [ih, List.append_assoc]
      rfl

def Performs {α : Type} (sure : Prop) (deeds : List Deed) (result : α) (run : Search α) : Prop :=
  Follows Deed.perform Deed.Fits sure deeds result run

section

variable {sure : Prop} {α β : Type}

theorem performs_tell (events : List Event) : Performs sure (events.map .tell) () (Search.tell events) := by
  refine .ended (fun deed among => ?_) fun progress => ?_
  · obtain ⟨event, _, rfl⟩ := List.mem_map.mp among
    trivial
  · change _ = EStateM.Result.ok () (Deed.performAll progress _)
    rw [perform_all_tells]
    rfl

theorem performs_telling (events : List Event) (result : α) (run : Told α) (draws : Draws events result run) :
    Performs Affine.Answers (events.map .tell) result (Search.telling run) := by
  have tells : ∀ events : List Event, ∀ deed ∈ events.map Deed.tell, deed.Fits := by
    intro events deed among
    obtain ⟨event, _, rfl⟩ := List.mem_map.mp among
    trivial
  cases draws with
  | ended _ ends =>
      refine .ended (tells events) fun progress => ?_
      change _ = EStateM.Result.ok result (Deed.performAll progress _)
      rw [perform_all_tells, Search.telling, onPart, ends, told_all]
  | stopped done fault unsure _ stops =>
      refine .stopped (done.map .tell) fault unsure (tells done) fun progress => ?_
      change _ = EStateM.Result.error fault (Deed.performAll progress _)
      rw [perform_all_tells, Search.telling, onPart, stops, told_all]

theorem keeping_of_ok (run : EStateM Fault Ledger Unit) (progress : Progress) (after : Ledger)
    (ran : run progress.ledger = .ok () after) :
    Search.keeping run progress = .ok () { progress with ledger := after } := by
  rw [Search.keeping, onPart, ran]

theorem performs_record (key : CandidateKey) (list : ConstraintList)
    (fits : key.matcher.row list.members = .ok list.terms) :
    Performs sure [.record key list] () (Search.record key list) := by
  refine .ended (List.forall_mem_singleton.mpr fits) fun progress => ?_
  change (if key ∈ progress.recorded.map Prod.fst then pure () else _ : Search Unit) progress
    = .ok () (if key ∈ progress.recorded.map Prod.fst then progress else _)
  by_cases known : key ∈ progress.recorded.map Prod.fst
  · rw [if_pos known, if_pos known]
    rfl
  · rw [if_neg known, if_neg known]
    have bound := Ledger.bind_of_row progress.ledger key.matcher list.members list.terms fits
    have began := keeping_of_ok _ { progress with recorded := (key, list) :: progress.recorded } _ bound
    exact (bind_of_ok _ _ _ _ () began).trans rfl

theorem performs_for_each (visit : α → Search (List β)) (deeds : α → List Deed) (found : α → List β)
    (items : List α) (each : ∀ item ∈ items, Performs sure (deeds item) (found item) (visit item)) :
    Performs sure (items.flatMap deeds) (items.flatMap found) (Search.forEach visit items) := by
  induction items with
  | nil => exact follows_pure []
  | cons item items ih =>
      have rest := ih fun other later => each other (List.mem_cons_of_mem item later)
      exact follows_then (each item List.mem_cons_self) (follows_map (found item ++ ·) rest)

theorem performs_for_numbered (visit : α × Nat → Search (List β)) (deeds : α × Nat → List Deed)
    (found : α → List β) (items : List α)
    (each : ∀ entry ∈ items.zipIdx, Performs sure (deeds entry) (found entry.1) (visit entry)) :
    Performs sure (items.zipIdx.flatMap deeds) (items.flatMap found) (Search.forEach visit items.zipIdx) := by
  rw [← flat_map_numbered items found]
  exact performs_for_each visit deeds (fun entry => found entry.1) items.zipIdx each

end

namespace Search

theorem gather_relation (relation : Relation) (matchers : List AccessMatcher) :
    Performs Affine.Answers (Finder.gatherDeeds relation.accesses matchers)
      (fun other => if other ∈ matchers then other.candidates relation.accesses else [])
      (gather (.relation relation) matchers) := by
  induction matchers with
  | nil => exact follows_pure _
  | cons matcher matchers ih =>
      have lists : (fun other => if other = matcher then matcher.candidates relation.accesses
            else if other ∈ matchers then other.candidates relation.accesses else [])
          = fun other => if other ∈ matcher :: matchers then other.candidates relation.accesses else [] := by
        funext other
        by_cases here : other = matcher <;> simp [here]
      rw [← lists, gather, Operand.toRelation, lift_ok_bind]
      exact follows_then (performs_telling _ _ _ (matcher.draws_candidates relation)) (follows_map
        (fun (lists : AccessMatcher → List ConstraintList) other =>
          if other = matcher then matcher.candidates relation.accesses else lists other) ih)

theorem gather_unreadable (operand : Operand) (matchers : List AccessMatcher) (progress : Progress)
    (unreadable : operand.Unreadable matchers) :
    gather operand matchers progress = .error (.notRelation operand.className) progress := by
  obtain ⟨some, other⟩ := unreadable
  cases matchers with
  | nil => exact absurd rfl some
  | cons matcher matchers =>
      cases operand with
      | relation held => exact absurd rfl (other held)
      | _ => rfl

theorem performs_gather (operand : Operand) (matchers : List AccessMatcher) :
    Performs (Affine.Answers ∧ ¬ operand.Unreadable matchers) (Finder.gatherDeeds operand.accesses matchers)
      (fun other => if other ∈ matchers then other.candidates operand.accesses else [])
      (gather operand matchers) := by
  by_cases unreadable : operand.Unreadable matchers
  · exact .stopped [] _ (fun certain => certain.2 unreadable) (by simp)
      fun progress => gather_unreadable operand matchers progress unreadable
  · cases matchers with
    | nil => exact follows_pure _
    | cons matcher matchers =>
        cases operand with
        | relation held => exact follows_imp And.left (gather_relation held (matcher :: matchers))
        | _ => exact absurd ⟨List.cons_ne_nil _ _, nofun⟩ unreadable

end Search

namespace Finder

theorem performs_try_pair (reader writer : AccessMatcher) (reads writes : List Access)
    (first second : ConstraintList × Nat) (read : first.1 ∈ reader.candidates reads)
    (written : second.1 ∈ writer.candidates writes) :
    Performs Affine.Answers (pairDeeds reader writer first second) (findingsOf reader writer first.1 second.1)
      (tryPair reader writer first second) := by
  rw [tryPair, pairDeeds]
  apply follows_then (performs_tell (first.1.comparisonEvents second.1))
  cases compared : first.1.compare second.1 with
  | error fault =>
      have nothing : findingsOf reader writer first.1 second.1 = [] := by rw [findingsOf, compared]
      rw [nothing]
      refine .stopped [] fault (fun answers => ?_) (by simp) fun _ => rfl
      obtain ⟨_, ended⟩ := candidates_comparable reader writer reads writes _ _ read written answers
      cases compared.symm.trans ended
  | ok agreed =>
      obtain ⟨constraints, listed, _⟩ :=
        compared_candidates reader writer reads writes _ _ read written agreed compared
      have announced : agreed.labels = constraints.map Constraint.label :=
        labels_of_constraints agreed constraints listed
      rw [findingsOf, compared, lift_ok_bind]
      dsimp only
      by_cases nothing : agreed.isEmpty = true
      · rw [if_pos nothing, if_pos nothing]
        exact follows_pure []
      · rw [if_neg nothing, if_neg nothing, listed, lift_ok_bind, List.flatMap_singleton, Finding.announcement,
          announced]
        apply follows_then (performs_tell [.agreement reader writer (constraints.map Constraint.label)])
        apply follows_then (performs_record ⟨.reads, reader, first.2⟩ first.1 (reader.candidate_row reads _ read))
        apply follows_then (performs_record ⟨.writes, writer, second.2⟩ second.1 (writer.candidate_row writes _ written))
        exact follows_pure _

section

variable (finder : Finder)

theorem findings_need_shared_label (reader writer : AccessMatcher) (disjoint : reader.sharesLabel writer = false) :
    ((finder.candidatesOn .reads reader).flatMap fun first =>
      (finder.candidatesOn .writes writer).flatMap fun second => findingsOf reader writer first second) = [] := by
  rw [List.flatMap_eq_nil_iff]
  intro first read
  rw [List.flatMap_eq_nil_iff]
  intro second written
  rw [findingsOf]
  cases compared : first.compare second with
  | error fault => rfl
  | ok agreed =>
      obtain ⟨_, _, _, nothing⟩ := compared_candidates reader writer _ _ _ _ read written agreed compared
      exact if_pos (nothing disjoint)

theorem agreed_of_nested (finding : Finding) (among : finding ∈ finder.nested) :
    finding.reader ∈ finder.readers ∧ ∃ constraints, finding.agreed.constraints = .ok constraints
      ∧ ∀ constraint ∈ constraints, constraint.label ∈ finding.reader.labels := by
  simp only [nested, List.mem_flatMap] at among
  obtain ⟨reader, reading, writer, _, first, read, second, written, found⟩ := among
  rw [findingsOf] at found
  cases compared : first.compare second with
  | error fault =>
      rw [compared] at found
      cases found
  | ok agreed =>
      obtain ⟨constraints, listed, held, _⟩ :=
        compared_candidates reader writer _ _ first second read written agreed compared
      rw [compared] at found
      dsimp only at found
      split at found
      · cases found
      · cases List.mem_singleton.mp found
        exact ⟨reading, constraints, listed, held⟩

theorem performs_hold (reader writer : AccessMatcher) :
    Performs Affine.Answers (finder.holdDeeds reader writer)
      ((finder.candidatesOn .reads reader).flatMap fun first =>
        (finder.candidatesOn .writes writer).flatMap fun second => findingsOf reader writer first second)
      (if reader.sharesLabel writer then
        Search.forEach (fun first =>
          Search.forEach (fun second => tryPair reader writer first second)
            (finder.candidatesOn .writes writer).zipIdx) (finder.candidatesOn .reads reader).zipIdx
      else pure []) := by
  rw [holdDeeds]
  cases shared : reader.sharesLabel writer with
  | true =>
      rw [if_pos rfl, if_pos rfl]
      apply performs_for_numbered
      intro first read
      apply performs_for_numbered
      intro second written
      exact performs_try_pair reader writer _ _ first second (mem_of_numbered _ _ read) (mem_of_numbered _ _ written)
  | false =>
      rw [finder.findings_need_shared_label reader writer shared]
      exact follows_pure []

theorem performs_search : Performs (Affine.Answers ∧ ¬ finder.Refuses) finder.deeds finder.nested finder.search := by
  rw [search, deeds]
  apply follows_then
  · apply follows_imp _ (Search.performs_gather finder.reads finder.readers)
    exact fun ⟨answers, readable⟩ => ⟨answers, fun unread => readable (.inl unread)⟩
  apply follows_then
  · apply follows_imp _ (Search.performs_gather finder.writes finder.writers)
    exact fun ⟨answers, readable⟩ => ⟨answers, fun unread => readable (.inr unread)⟩
  refine follows_then (?_ : Performs _ _ finder.nested _) ?_
  · apply follows_imp And.left
    apply performs_for_each
    intro reader among
    apply performs_for_each
    intro writer among'
    dsimp only
    rw [if_pos among, if_pos among']
    exact finder.performs_hold reader writer
  · cases finder.nested.isEmpty with
    | true => exact follows_then (performs_tell [.noAgreement]) (follows_pure _)
    | false => exact follows_pure _

variable (ledger : Ledger)

theorem find_ends (answers : Affine.Answers) (readable : ¬ finder.Refuses) :
    finder.find ledger = .ok finder.nested (Deed.performAll ⟨ledger, [], []⟩ finder.deeds) :=
  follows_sure finder.performs_search ⟨answers, readable⟩ _

theorem find_ok (findings : List Finding) (progress : Progress) (ended : finder.find ledger = .ok findings progress) :
    findings = finder.nested ∧ progress = Deed.performAll ⟨ledger, [], []⟩ finder.deeds :=
  follows_ok finder.performs_search _ _ _ ended

end

theorem readable_of_relations (finder : Finder) (reads writes : Relation) (reading : finder.reads = .relation reads)
    (writing : finder.writes = .relation writes) : ¬ finder.Refuses := by
  rintro (⟨_, other⟩ | ⟨_, other⟩)
  · exact other reads reading
  · exact other writes writing

@[simp]
theorem matchers_of_matchers (matchers : List AccessMatcher) :
    matchersOf (matchers.map .matcher) = .ok matchers := by
  induction matchers with
  | nil => rfl
  | cons matcher matchers ih => simp [matchersOf, ih]

theorem make_of_matchers (reads writes : Operand) (mark : Mark) (matchers : List AccessMatcher) :
    make reads writes (.items mark (matchers.map .matcher)) = .ok (ofMatchers reads writes matchers) := by
  simp [make, Operand.elements]

/-- A finder for two relations finds what the plain nested comparison finds, in its order and as often,
whatever has been recorded before. What is compared is what the matchers draw from the relations, and the
comparison of two candidates always has a result. -/
theorem find_is_nested (answers : Affine.Answers) (reads writes : Relation) (matchers : List AccessMatcher)
    (mark : Mark) (ledger : Ledger) :
    ∃ finder progress,
      make (.relation reads) (.relation writes) (.items mark (matchers.map .matcher)) = .ok finder
        ∧ finder.find ledger = .ok finder.nested progress
        ∧ (∀ (side : Side) (matcher : AccessMatcher) told, ∃ after,
          matcher.draw (side.choose reads writes) told = .ok (finder.candidatesOn side matcher) after)
        ∧ ∀ reader ∈ finder.readers, ∀ writer ∈ finder.writers,
          ∀ first ∈ finder.candidatesOn .reads reader, ∀ second ∈ finder.candidatesOn .writes writer,
            ∃ agreed, first.compare second = .ok agreed := by
  have readable :=
    readable_of_relations (ofMatchers (.relation reads) (.relation writes) matchers) reads writes rfl rfl
  refine ⟨_, _, make_of_matchers _ _ mark matchers, find_ends _ ledger answers readable, ?_, ?_⟩
  · intro side matcher told
    cases side <;> exact ⟨_, matcher.draw_ends answers _ told⟩
  · intro reader _ writer _ first read second written
    exact candidates_comparable reader writer _ _ first second read written answers

end Finder

end

namespace Finder

def alikeFinder : Finder :=
  ofMatchers (.relation (.union twoReads)) (.relation (.union twoWrites)) [frontAlike, outerAlike, frontAlike]

theorem find_is_nested_alike :
    Affine.Answers ∧ ∃ finder progress,
      make (.relation (.union twoReads)) (.relation (.union twoWrites))
          (.items [0] ([frontAlike, outerAlike, frontAlike].map .matcher)) = .ok finder
        ∧ finder.find .blank = .ok finder.nested progress ∧ finder.nested.length = 3 := by
  obtain ⟨finder, progress, made, found, _⟩ := find_is_nested boxes_answers (.union twoReads) (.union twoWrites)
    [frontAlike, outerAlike, frontAlike] [0] .blank
  cases made
  exact ⟨boxes_answers, alikeFinder, progress, rfl, found, rfl⟩

end Finder

end ScheduleShape
