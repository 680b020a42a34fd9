import ScheduleShape.Proofs.Finder.Recording

set_option autoImplicit false

namespace ScheduleShape

section

variable [Affine]

theorem gather_tells (answers : Affine.Answers) (operand : Operand) (matchers : List AccessMatcher)
    (readable : ¬ operand.Unreadable matchers) (progress : Progress) :
    Search.gather operand matchers progress
      = .ok (fun other => if other ∈ matchers then other.candidates operand.accesses else [])
        { progress with events := progress.events ++ matchers.flatMap (·.rejections operand.accesses) } := by
  have gathered := follows_sure (Search.performs_gather operand matchers) ⟨answers, readable⟩ progress
  rw [Finder.gatherDeeds, ← List.map_flatMap] at gathered
  exact gathered.trans (congrArg _ (perform_all_tells progress _))

namespace Finder

variable (finder : Finder) (ledger : Ledger)

theorem find_refused (answers : Affine.Answers) (refuses : finder.Refuses) :
    ∃ operand progress, (operand = finder.reads ∨ operand = finder.writes)
      ∧ finder.find ledger = .error (.notRelation operand.className) progress ∧ progress.ledger = ledger := by
  by_cases unread : finder.reads.Unreadable finder.readers
  · have failed := Search.gather_unreadable finder.reads finder.readers ⟨ledger, [], []⟩ unread
    exact ⟨finder.reads, _, .inl rfl, bind_of_error _ _ _ _ _ failed, rfl⟩
  · have unwritten := refuses.resolve_left unread
    have gathered := gather_tells answers finder.reads finder.readers unread ⟨ledger, [], []⟩
    let between : Progress := ⟨ledger, [], finder.readers.flatMap (·.rejections finder.reads.accesses)⟩
    have failed := Search.gather_unreadable finder.writes finder.writers between unwritten
    refine ⟨finder.writes, between, .inr rfl, (bind_of_ok _ _ _ _ _ gathered).trans ?_, rfl⟩
    exact bind_of_error _ _ _ _ _ failed

/-- A finder fails just when it has readers and what is read is no relation, or has writers and what is
written is none. The fault names one of the two, and all records are as before. In all other cases there
are findings, whatever the matchers, the accesses and the records are. -/
theorem find_fails_atomically (answers : Affine.Answers) :
    ((∃ fault progress, finder.find ledger = .error fault progress) ↔ finder.Refuses)
    ∧ (∀ fault progress, finder.find ledger = .error fault progress →
      (∃ operand, (operand = finder.reads ∨ operand = finder.writes)
        ∧ fault = .notRelation operand.className)
      ∧ progress.ledger = ledger)
    ∧ (¬ finder.Refuses → ∃ findings progress, finder.find ledger = .ok findings progress) := by
  have refusal : ∀ fault progress, finder.find ledger = .error fault progress → finder.Refuses := by
    intro fault progress failed
    by_cases refuses : finder.Refuses
    · exact refuses
    · cases (finder.find_ends ledger answers refuses).symm.trans failed
  refine ⟨⟨?_, ?_⟩, ?_, ?_⟩
  · rintro ⟨fault, progress, failed⟩
    exact refusal fault progress failed
  · intro refuses
    obtain ⟨operand, progress, _, failed, _⟩ := finder.find_refused ledger answers refuses
    exact ⟨_, progress, failed⟩
  · intro fault progress failed
    obtain ⟨operand, _, given, failed', kept⟩ :=
      finder.find_refused ledger answers (refusal fault progress failed)
    cases failed.symm.trans failed'
    exact ⟨⟨operand, given, rfl⟩, kept⟩
  · intro readable
    exact ⟨_, _, finder.find_ends ledger answers readable⟩

end Finder

end

namespace Finder

theorem find_fails_atomically_null :
    Affine.Answers ∧ ∃ progress,
      ({ alikeFinder with writes := .value .null } : Finder).find usedLedger
          = .error (.notRelation "NoneType") progress
        ∧ progress.ledger = usedLedger := by
  refine ⟨boxes_answers, _, rfl, ?_⟩
  exact ((find_fails_atomically { alikeFinder with writes := .value .null } usedLedger boxes_answers).2.1 _ _ rfl).2

end Finder

end ScheduleShape
