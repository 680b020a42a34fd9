import Mathlib.Data.List.Nodup
import ScheduleShape.Proofs.Finder.Search

set_option autoImplicit false

namespace ScheduleShape

section

variable [Affine]

theorem matchers_of_other (matchers : List AccessMatcher) (operand : Operand) (later : List Operand)
    (other : ∀ matcher, operand ≠ .matcher matcher) :
    matchersOf (matchers.map .matcher ++ operand :: later)
      = .error (.notAccessMatcher operand.typeName) := by
  induction matchers with
  | nil =>
      cases operand with
      | matcher held => exact absurd rfl (other held)
      | _ => rfl
  | cons matcher matchers ih =>
      rw [List.map_cons, List.cons_append, matchersOf, ih]
      rfl

theorem matchers_or_other (operands : List Operand) :
    (∃ matchers : List AccessMatcher, operands = matchers.map .matcher)
      ∨ ∃ (matchers : List AccessMatcher) (operand : Operand) (later : List Operand),
        operands = matchers.map .matcher ++ operand :: later
          ∧ ∀ matcher, operand ≠ .matcher matcher := by
  induction operands with
  | nil => exact .inl ⟨[], rfl⟩
  | cons operand operands ih =>
      by_cases known : ∃ matcher, operand = .matcher matcher
      · obtain ⟨matcher, rfl⟩ := known
        rcases ih with ⟨matchers, rfl⟩ | ⟨matchers, other, later, rfl, none⟩
        · exact .inl ⟨matcher :: matchers, rfl⟩
        · exact .inr ⟨matcher :: matchers, other, later, rfl, none⟩
      · exact .inr ⟨[], operand, operands, rfl, fun matcher same => known ⟨matcher, same⟩⟩

end

namespace Finder

structure OnceEach (matchers once : List AccessMatcher) : Prop where
  distinct : once.Nodup
  members : ∀ matcher, matcher ∈ once ↔ matcher ∈ matchers
  inOrder : once.Pairwise fun one two => matchers.idxOf one < matchers.idxOf two

theorem merge_adds (matchers more : List AccessMatcher) :
    ∃ added, merge matchers more = matchers ++ added ∧ added.Nodup
      ∧ (∀ matcher, matcher ∈ added ↔ matcher ∈ more ∧ matcher ∉ matchers)
      ∧ added.Pairwise fun one two => more.idxOf one < more.idxOf two := by
  induction more generalizing matchers with
  | nil => exact ⟨[], by simp [merge], List.nodup_nil, by simp, .nil⟩
  | cons first more ih =>
      by_cases known : first ∈ matchers
      · obtain ⟨added, merged, distinct, members, ordered⟩ := ih matchers
        have held : first ∉ added := fun there => ((members first).mp there).2 known
        refine ⟨added, ?_, distinct, fun matcher => ?_, in_order_past first more added ordered held⟩
        · rw [← merged, merge, List.foldl_cons, if_pos known]
          rfl
        · rw [members, List.mem_cons]
          constructor
          · exact fun there => ⟨.inr there.1, there.2⟩
          · rintro ⟨rfl | there, absent⟩
            · exact absurd known absent
            · exact ⟨there, absent⟩
      · obtain ⟨added, merged, distinct, members, ordered⟩ := ih (matchers ++ [first])
        have absent : first ∉ added := fun there => ((members first).mp there).2 (by simp)
        refine ⟨first :: added, ?_, List.nodup_cons.mpr ⟨absent, distinct⟩, fun matcher => ?_, ?_⟩
        · rw [merge, List.foldl_cons, if_neg known]
          change merge (matchers ++ [first]) more = _
          rw [merged, List.append_assoc]
          rfl
        · rw [List.mem_cons, List.mem_cons, members, List.mem_append, List.mem_singleton]
          by_cases same : matcher = first
          · subst same
            simp [known]
          · simp [same]
        · refine List.pairwise_cons.mpr ⟨fun later among => ?_, in_order_past first more added ordered absent⟩
          have different : first ≠ later := fun same => absent (same ▸ among)
          rw [List.idxOf_cons_self, idx_of_past first later more different]
          omega

theorem merge_apart (matchers started more : List AccessMatcher)
    (apart : ∀ matcher ∈ more, matcher ∉ matchers) :
    merge (matchers ++ started) more = matchers ++ merge started more := by
  induction more generalizing started with
  | nil => rfl
  | cons first more ih =>
      have rest := fun started => ih started fun matcher among => apart matcher (List.mem_cons_of_mem _ among)
      have fresh := apart first List.mem_cons_self
      by_cases known : first ∈ started
      · have there : first ∈ matchers ++ started := List.mem_append_right _ known
        simpa only [merge, List.foldl_cons, if_pos known, if_pos there] using rest started
      · have absent : first ∉ matchers ++ started := by simp [fresh, known]
        simpa only [merge, List.foldl_cons, if_neg known, if_neg absent, List.append_assoc]
          using rest (started ++ [first])

section

variable (matchers : List AccessMatcher)

theorem mem_of_kind (kind : AccessKind) (matcher : AccessMatcher) :
    matcher ∈ ofKind kind matchers ↔ matcher ∈ matchers ∧ matcher.kind = kind := by
  rw [ofKind, List.mem_filter, decide_eq_true_eq]

theorem once_each : OnceEach matchers (merge [] matchers) := by
  obtain ⟨added, merged, distinct, members, ordered⟩ := merge_adds [] matchers
  rw [merged]
  exact ⟨distinct, by simpa using members, ordered⟩

theorem merge_both (kind : AccessKind) (single : kind ≠ .readAndWrite) :
    merge (ofKind kind matchers) (ofKind .readAndWrite matchers)
      = ofKind kind matchers ++ merge [] (ofKind .readAndWrite matchers) := by
  have apart : ∀ matcher ∈ ofKind .readAndWrite matchers, matcher ∉ ofKind kind matchers := by
    intro matcher both there
    have one := ((mem_of_kind matchers _ matcher).mp there).2
    have two := ((mem_of_kind matchers _ matcher).mp both).2
    exact single (one.symm.trans two)
  simpa using merge_apart (ofKind kind matchers) [] (ofKind .readAndWrite matchers) apart

theorem mem_merge_both (kind : AccessKind) (single : kind ≠ .readAndWrite) (matcher : AccessMatcher)
    (among : matcher ∈ merge (ofKind kind matchers) (ofKind .readAndWrite matchers)) :
    matcher.kind = kind ∨ matcher.kind = .readAndWrite := by
  rw [merge_both matchers kind single, List.mem_append, (once_each _).members, mem_of_kind,
    mem_of_kind] at among
  exact among.imp And.right And.right

theorem count_merge_both (kind : AccessKind) (single : kind ≠ .readAndWrite) (matcher : AccessMatcher)
    (among : matcher ∈ matchers) (both : matcher.kind = .readAndWrite) :
    (merge (ofKind kind matchers) (ofKind .readAndWrite matchers)).count matcher = 1 := by
  have once := once_each (ofKind .readAndWrite matchers)
  have there := (once.members matcher).mpr ((mem_of_kind matchers _ matcher).mpr ⟨among, both⟩)
  have absent : matcher ∉ ofKind kind matchers := by
    intro held
    exact single (((mem_of_kind matchers _ matcher).mp held).2.symm.trans both)
  rw [merge_both matchers kind single, List.count_append, List.count_eq_zero.mpr absent,
    List.count_eq_one_of_mem once.distinct there]

end

section

variable [Affine]

theorem make_of_elements (reads writes given : Operand) (operands : List Operand)
    (listed : given.elements = .ok operands) :
    make reads writes given = (matchersOf operands).map (ofMatchers reads writes) := by
  rw [make, listed]
  change (matchersOf operands >>= fun matchers => pure (ofMatchers reads writes matchers)) = _
  cases matchersOf operands <;> rfl

/-- A finder is refused just when one of the things it is made from is no matcher; the fault names the
first of these. Otherwise the readers are the matchers that only read, in their order and as often as
given, and after them those of both kinds, each once and where it first occurs. The writers are made in
the same way, with the same matchers at the end. So no matcher of a single kind is on the other side,
and one of both kinds is once on each side. Records have no part in this. -/
theorem make_sorts_matchers (reads writes given : Operand) (operands : List Operand)
    (listed : given.elements = .ok operands) :
    ((∃ fault, make reads writes given = .error fault)
      ↔ ∃ operand ∈ operands, ∀ matcher, operand ≠ .matcher matcher)
    ∧ (∀ fault, make reads writes given = .error fault →
      ∃ (before : List AccessMatcher) (operand : Operand) (later : List Operand),
        operands = before.map .matcher ++ operand :: later ∧ (∀ matcher, operand ≠ .matcher matcher)
          ∧ fault = .notAccessMatcher operand.typeName)
    ∧ ∀ finder, make reads writes given = .ok finder → ∃ (matchers once : List AccessMatcher),
      operands = matchers.map .matcher ∧ finder.reads = reads ∧ finder.writes = writes
        ∧ finder.both = matchers.filter (·.kind = .readAndWrite) ∧ OnceEach finder.both once
        ∧ finder.readers = matchers.filter (·.kind = .read) ++ once
        ∧ finder.writers = matchers.filter (·.kind = .write) ++ once
        ∧ (∀ matcher ∈ finder.readers, matcher.kind ≠ .write)
        ∧ (∀ matcher ∈ finder.writers, matcher.kind ≠ .read)
        ∧ ∀ matcher ∈ matchers, matcher.kind = .readAndWrite →
          finder.readers.count matcher = 1 ∧ finder.writers.count matcher = 1 := by
  rw [make_of_elements reads writes given operands listed]
  rcases matchers_or_other operands with ⟨matchers, rfl⟩ | ⟨matchers, operand, later, rfl, other⟩
  · rw [matchers_of_matchers matchers]
    have allHeld : ¬ ∃ operand ∈ matchers.map Operand.matcher, ∀ matcher, operand ≠ .matcher matcher := by
      rintro ⟨_, among, other⟩
      obtain ⟨matcher, _, rfl⟩ := List.mem_map.mp among
      exact other matcher rfl
    refine ⟨iff_of_false (fun ⟨_, failed⟩ => nomatch failed) allHeld, fun _ failed => (nomatch failed), ?_⟩
    intro finder ended
    cases ended
    refine ⟨matchers, merge [] (ofKind .readAndWrite matchers), rfl, rfl, rfl, rfl, once_each _,
      merge_both matchers .read (by decide), merge_both matchers .write (by decide), ?_, ?_, ?_⟩
    · intro matcher among
      rcases mem_merge_both matchers .read (by decide) matcher among with kind | kind <;> simp [kind]
    · intro matcher among
      rcases mem_merge_both matchers .write (by decide) matcher among with kind | kind <;> simp [kind]
    · intro matcher among both
      exact ⟨count_merge_both matchers .read (by decide) matcher among both,
        count_merge_both matchers .write (by decide) matcher among both⟩
  · rw [matchers_of_other matchers operand later other]
    refine ⟨iff_of_true ⟨_, rfl⟩ ⟨operand, by simp, other⟩, ?_, fun _ ended => (nomatch ended)⟩
    intro fault failed
    cases failed
    exact ⟨matchers, operand, later, rfl, other, rfl⟩

end

def onlyReading : AccessMatcher := { outerAlike with kind := .read, number := 2 }

def mixed : List AccessMatcher := [outerAlike, onlyReading, frontAlike, outerAlike, onlyReading]

theorem make_sorts_matchers_mixed :
    (Operand.items [0] (mixed.map .matcher)).elements = .ok (mixed.map .matcher)
      ∧ ∃ finder once, make (.relation (.union twoReads)) (.relation (.union twoWrites))
          (.items [0] (mixed.map .matcher)) = .ok finder
        ∧ finder.both = [outerAlike, outerAlike] ∧ OnceEach finder.both once
        ∧ finder.readers = [onlyReading, onlyReading] ++ once ∧ finder.writers = [frontAlike] ++ once
        ∧ finder.readers.count outerAlike = 1 ∧ finder.writers.count outerAlike = 1 := by
  have made := make_of_matchers (.relation (.union twoReads)) (.relation (.union twoWrites)) [0] mixed
  obtain ⟨_, _, sorted⟩ := make_sorts_matchers (.relation (.union twoReads)) (.relation (.union twoWrites))
    (.items [0] (mixed.map .matcher)) (mixed.map .matcher) rfl
  obtain ⟨matchers, once, held, _, _, _, each, readers, writers, _, _, counts⟩ := sorted _ made
  have same : mixed = matchers :=
    (List.map_inj_right fun _ _ alike => Operand.matcher.inj alike).mp held
  subst same
  obtain ⟨reads, writes⟩ := counts outerAlike List.mem_cons_self rfl
  exact ⟨rfl, _, once, made, rfl, each, readers, writers, reads, writes⟩

end Finder

end ScheduleShape
