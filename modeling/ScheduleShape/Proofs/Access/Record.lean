import ScheduleShape.Finder.Usage
import ScheduleShape.Proofs.Constraint.Candidates

set_option autoImplicit false

namespace ScheduleShape

variable [Affine]

section

variable (labels : List Label) (members : List Operand)

theorem row_terms_of_fits (fits : members.map Operand.label? = labels.map some) :
    ∃ terms, rowTerms labels members = .ok terms ∧ members.map Operand.term? = terms.map some := by
  induction labels generalizing members with
  | nil =>
      have none : members = [] := List.map_eq_nil_iff.mp fits
      rw [none]
      exact ⟨[], rfl, rfl⟩
  | cons label labels ih =>
      cases members with
      | nil => simp at fits
      | cons member members =>
          rw [List.map_cons, List.map_cons, List.cons.injEq] at fits
          obtain ⟨here, later⟩ := fits
          obtain ⟨terms, taken, held⟩ := ih members later
          cases member with
          | constraint constraint =>
              have named : constraint.label = label := Option.some.inj here
              refine ⟨constraint.term :: terms, ?_, ?_⟩
              · rw [rowTerms, if_pos named, taken]
                rfl
              · rw [List.map_cons, held, List.map_cons]
                rfl
          | _ => cases here

theorem fits_of_row_terms (terms : List Operand) (counted : members.length = labels.length)
    (taken : rowTerms labels members = .ok terms) : members.map Operand.label? = labels.map some := by
  induction labels generalizing members terms with
  | nil => rw [List.eq_nil_of_length_eq_zero counted]; rfl
  | cons label labels ih =>
      cases members with
      | nil => cases counted
      | cons member members =>
          cases member with
          | constraint constraint =>
              rw [rowTerms] at taken
              by_cases named : constraint.label = label
              · rw [if_pos named] at taken
                cases rest : rowTerms labels members with
                | error fault =>
                    rw [rest] at taken
                    cases taken
                | ok later =>
                    have below := ih members later (by simpa using counted) rest
                    rw [List.map_cons, List.map_cons, below, ← named]
                    rfl
              · rw [if_neg named] at taken
                cases taken
          | _ => cases taken

end

namespace AccessMatcher

variable (matcher : AccessMatcher) (members : List Operand)

theorem row_of_fits (fits : matcher.Fits members) :
    ∃ row, matcher.row members = .ok row ∧ members.map Operand.term? = row.map some := by
  have counted : members.length = matcher.size := by
    simpa [AccessMatcher.size] using congrArg List.length fits
  rw [row, if_pos counted]
  exact row_terms_of_fits matcher.labels members fits

theorem fits_of_row (row : List Operand) (taken : matcher.row members = .ok row) : matcher.Fits members := by
  rw [AccessMatcher.row] at taken
  by_cases counted : members.length = matcher.size
  · rw [if_pos counted] at taken
    exact fits_of_row_terms matcher.labels members row counted taken
  · rw [if_neg counted] at taken
    cases taken

theorem terms_of_row (row : List Operand) (taken : matcher.row members = .ok row) :
    members.map Operand.term? = row.map some := by
  obtain ⟨other, same, held⟩ := matcher.row_of_fits members (matcher.fits_of_row members row taken)
  rw [taken] at same
  cases same
  exact held

theorem row_full (row : List Operand) (taken : matcher.row members = .ok row) : row.length = matcher.size := by
  have fits := congrArg List.length (matcher.fits_of_row members row taken)
  have terms := congrArg List.length (matcher.terms_of_row members row taken)
  simp only [List.length_map] at fits terms
  exact terms.symm.trans fits

theorem row_position (row : List Operand) (taken : matcher.row members = .ok row) (position : Nat)
    (within : position < matcher.size) :
    ∃ constraint, members[position]? = some (.constraint constraint) ∧ row[position]? = some constraint.term := by
  have held := congrArg (·[position]?) (matcher.terms_of_row members row taken)
  have filled : position < row.length := by rw [matcher.row_full members row taken]; exact within
  simp only [List.getElem?_map, List.getElem?_eq_getElem filled] at held
  obtain ⟨member, found, termed⟩ := Option.map_eq_some_iff.mp held
  cases member with
  | constraint constraint =>
      refine ⟨constraint, found, ?_⟩
      rw [List.getElem?_eq_getElem filled]
      exact termed.symm
  | _ => cases termed

end AccessMatcher

namespace Ledger

variable (ledger after : Ledger) (matcher : AccessMatcher) (members : List Operand)

theorem bind_ok_iff : (∃ after, bind matcher members ledger = .ok () after) ↔ matcher.Fits members := by
  constructor
  · rintro ⟨after, ended⟩
    cases taken : matcher.row members with
    | ok row => exact matcher.fits_of_row members row taken
    | error fault => cases (bind_refused ledger matcher members fault taken).symm.trans ended
  · intro fits
    obtain ⟨row, taken, _⟩ := matcher.row_of_fits members fits
    exact ⟨_, bind_of_row ledger matcher members row taken⟩

-- The row is complete before anything is added.
theorem bind_keeps (fault : Fault) (failed : bind matcher members ledger = .error fault after) : after = ledger := by
  cases taken : matcher.row members with
  | ok row => cases (bind_of_row ledger matcher members row taken).symm.trans failed
  | error odd =>
      cases (bind_refused ledger matcher members odd taken).symm.trans failed
      rfl

end Ledger

theorem Record.column_of_full (record : Record) (size : Nat) (full : ∀ row ∈ record.rows, row.length = size)
    (position : Nat) (within : position < size) :
    ∃ column, record.column position = .ok column
      ∧ column.map some = record.rows.map fun row => row[position]? := by
  rw [Record.column]
  generalize record.rows = rows at full
  induction rows with
  | nil => exact ⟨[], rfl, rfl⟩
  | cons row rows ih =>
      obtain ⟨column, read, held⟩ := ih fun later among => full later (List.mem_cons_of_mem row among)
      have filled : position < row.length := by rw [full row List.mem_cons_self]; exact within
      refine ⟨row[position] :: column, ?_, ?_⟩
      · rw [List.mapM_cons, pick_at "list" filled, read]
        rfl
      · rw [List.map_cons, List.map_cons, held, List.getElem?_eq_getElem filled]

end ScheduleShape
