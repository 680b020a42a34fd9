import Mathlib.Data.List.Perm.Basic
import ScheduleShape.Proofs.Finder.Partition
import ScheduleShape.Proofs.Finder.Recording

set_option autoImplicit false

namespace ScheduleShape

namespace Finder

theorem merge_perm (matchers matchers' more more' : List AccessMatcher)
    (same : matchers.Perm matchers') (same' : more.Perm more') :
    (merge matchers more).Perm (merge matchers' more') := by
  obtain ⟨added, merged, distinct, members, _⟩ := merge_adds matchers more
  obtain ⟨added', merged', distinct', members', _⟩ := merge_adds matchers' more'
  rw [merged, merged']
  apply same.append
  rw [List.perm_ext_iff_of_nodup distinct distinct']
  intro matcher
  rw [members, members', same.mem_iff, same'.mem_iff]

section

variable [Affine]

section

variable (finder finder' : Finder) (sameReaders : finder.readers.Perm finder'.readers)
  (sameWriters : finder.writers.Perm finder'.writers)
  (sameReads : finder.reads.accesses.Perm finder'.reads.accesses)
  (sameWrites : finder.writes.accesses.Perm finder'.writes.accesses)

include sameReads sameWrites

theorem candidates_on_perm (side : Side) (matcher : AccessMatcher) :
    (finder.candidatesOn side matcher).Perm (finder'.candidatesOn side matcher) := by
  cases side with
  | reads => exact sameReads.filterMap _
  | writes => exact sameWrites.filterMap _

include sameReaders sameWriters

theorem nested_perm : finder.nested.Perm finder'.nested := by
  have drawn := candidates_on_perm finder finder' sameReads sameWrites
  apply sameReaders.flatMap
  intro reader _
  apply sameWriters.flatMap
  intro writer _
  apply (drawn .reads reader).flatMap
  intro first _
  apply (drawn .writes writer).flatMap
  intro second _
  exact .refl _

theorem answers_same (side : Side) (list : ConstraintList) :
    finder.answers side list = finder'.answers side list := by
  have drawn := candidates_on_perm finder finder' sameReads sameWrites
  cases side with
  | reads =>
      rw [answers, answers, sameWriters.any_eq]
      congr 1
      funext writer
      exact (drawn .writes writer).any_eq
  | writes =>
      rw [answers, answers, sameReaders.any_eq]
      congr 1
      funext reader
      exact (drawn .reads reader).any_eq

theorem bindings_on_perm (matcher : AccessMatcher) (side : Side) :
    (finder.bindingsOn matcher side).Perm (finder'.bindingsOn matcher side) := by
  have listed : matcher ∈ finder.matchersOn side ↔ matcher ∈ finder'.matchersOn side := by
    cases side with
    | reads => exact sameReaders.mem_iff
    | writes => exact sameWriters.mem_iff
  have answering := funext (answers_same finder finder' sameReaders sameWriters sameReads sameWrites side)
  rw [bindingsOn, bindingsOn, answering]
  by_cases among : matcher ∈ finder.matchersOn side
  · rw [if_pos among, if_pos (listed.mp among)]
    exact ((candidates_on_perm finder finder' sameReads sameWrites side matcher).filter _).map _
  · rw [if_neg among, if_neg fun other => among (listed.mpr other)]

theorem bindings_perm (matcher : AccessMatcher) : (finder.bindings matcher).Perm (finder'.bindings matcher) := by
  have side := bindings_on_perm finder finder' sameReaders sameWriters sameReads sameWrites matcher
  exact (side .reads).append (side .writes)

end

theorem of_matchers_perm (reads reads' writes writes' : Operand) (matchers matchers' : List AccessMatcher)
    (same : matchers.Perm matchers') :
    (ofMatchers reads writes matchers).readers.Perm (ofMatchers reads' writes' matchers').readers
      ∧ (ofMatchers reads writes matchers).writers.Perm (ofMatchers reads' writes' matchers').writers :=
  ⟨merge_perm _ _ _ _ (same.filter _) (same.filter _), merge_perm _ _ _ _ (same.filter _) (same.filter _)⟩

/-- The order of the matchers, of the accesses that are read and of those that are written changes
neither how often a finding occurs, nor how often a binding is added to a matcher, nor whether the
matcher counts as resolved. -/
theorem find_order_irrelevant (answers : Affine.Answers) (reads reads' writes writes' : Relation)
    (matchers matchers' : List AccessMatcher) (mark mark' : Mark) (ledger : Ledger)
    (sameMatchers : matchers.Perm matchers') (sameReads : reads.accesses.Perm reads'.accesses)
    (sameWrites : writes.accesses.Perm writes'.accesses) :
    ∃ finder finder' findings findings' progress progress',
      make (.relation reads) (.relation writes) (.items mark (matchers.map .matcher)) = .ok finder
        ∧ make (.relation reads') (.relation writes') (.items mark' (matchers'.map .matcher)) = .ok finder'
        ∧ finder.find ledger = .ok findings progress ∧ finder'.find ledger = .ok findings' progress'
        ∧ findings.Perm findings'
        ∧ ∀ matcher, ∃ added added',
          (progress.ledger.record matcher).rows = (ledger.record matcher).rows ++ added
            ∧ (progress'.ledger.record matcher).rows = (ledger.record matcher).rows ++ added'
            ∧ added.Perm added'
            ∧ (progress.ledger.record matcher).resolved = (progress'.ledger.record matcher).resolved := by
  let finder := ofMatchers (.relation reads) (.relation writes) matchers
  let finder' := ofMatchers (.relation reads') (.relation writes') matchers'
  obtain ⟨sameReaders, sameWriters⟩ := of_matchers_perm (.relation reads) (.relation reads')
    (.relation writes) (.relation writes') matchers matchers' sameMatchers
  obtain ⟨progress, ended, records⟩ :=
    find_books answers finder ledger (finder.readable_of_relations reads writes rfl rfl)
  obtain ⟨progress', ended', records'⟩ :=
    find_books answers finder' ledger (finder'.readable_of_relations reads' writes' rfl rfl)
  refine ⟨finder, finder', _, _, progress, progress', make_of_matchers _ _ mark matchers,
    make_of_matchers _ _ mark' matchers', ended, ended', ?_, fun matcher => ?_⟩
  · exact nested_perm finder finder' sameReaders sameWriters sameReads sameWrites
  · obtain ⟨added, rows, bindings, resolved⟩ := records matcher
    obtain ⟨added', rows', bindings', resolved'⟩ := records' matcher
    have between := bindings_perm finder finder' sameReaders sameWriters sameReads sameWrites matcher
    have same : added.Perm added' := bindings.trans (between.trans bindings'.symm)
    refine ⟨added, added', rows, rows', same, ?_⟩
    rw [resolved, resolved', same.isEmpty_eq]

end

def backwards (held : BoxUnion) : BoxUnion := { held with accesses := held.accesses.reverse }

theorem find_order_irrelevant_alike :
    Affine.Answers ∧ [frontAlike, outerAlike, frontAlike].Perm [frontAlike, frontAlike, outerAlike]
      ∧ twoReads.accesses.Perm (backwards twoReads).accesses
      ∧ twoWrites.accesses.Perm (backwards twoWrites).accesses
      ∧ ∃ finder finder' findings findings' progress progress',
        make (.relation (.union twoReads)) (.relation (.union twoWrites))
            (.items [0] ([frontAlike, outerAlike, frontAlike].map .matcher)) = .ok finder
          ∧ make (.relation (.union (backwards twoReads))) (.relation (.union (backwards twoWrites)))
            (.items [1] ([frontAlike, frontAlike, outerAlike].map .matcher)) = .ok finder'
          ∧ finder.find usedLedger = .ok findings progress ∧ finder'.find usedLedger = .ok findings' progress'
          ∧ findings.Perm findings'
          ∧ ∀ matcher, ∃ added added',
            (progress.ledger.record matcher).rows = (usedLedger.record matcher).rows ++ added
              ∧ (progress'.ledger.record matcher).rows = (usedLedger.record matcher).rows ++ added'
              ∧ added.Perm added'
              ∧ (progress.ledger.record matcher).resolved = (progress'.ledger.record matcher).resolved := by
  have matchers : [frontAlike, outerAlike, frontAlike].Perm [frontAlike, frontAlike, outerAlike] :=
    .cons _ (.swap _ _ _)
  have turned : ∀ held : BoxUnion, held.accesses.Perm (backwards held).accesses :=
    fun held => (List.reverse_perm held.accesses).symm
  exact ⟨boxes_answers, matchers, turned twoReads, turned twoWrites,
    find_order_irrelevant boxes_answers (.union twoReads) (.union (backwards twoReads)) (.union twoWrites)
      (.union (backwards twoWrites)) _ _ [0] [1] usedLedger matchers (turned twoReads) (turned twoWrites)⟩

end Finder

end ScheduleShape
