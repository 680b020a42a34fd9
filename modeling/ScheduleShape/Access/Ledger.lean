import ScheduleShape.Constraint.Basic
import ScheduleShape.Outcome

set_option autoImplicit false

namespace ScheduleShape

variable [Affine]

structure Record where
  rows : List (List Operand)
  resolved : Bool

structure Ledger where
  entries : List (AccessMatcher × Record)

namespace Record

def blank : Record := ⟨[], false⟩

def column (record : Record) (position : Int) : Except Fault (List Operand) :=
  record.rows.mapM fun row => pick "list" row position

end Record

def rowTerms : List Label → List Operand → Except Fault (List Operand)
  | label :: labels, .constraint constraint :: members =>
      if constraint.label = label then (rowTerms labels members).map (constraint.term :: ·)
      else .error (.constraintLabel constraint.label.text label.text)
  | _ :: _, operand :: _ => .error (.noField operand.typeName "label")
  | _, _ => .ok []

namespace AccessMatcher

def row (matcher : AccessMatcher) (members : List Operand) : Except Fault (List Operand) :=
  if members.length = matcher.size then rowTerms matcher.labels members
  else .error (.constraintCount matcher.size members.length)

end AccessMatcher

namespace Ledger

def blank : Ledger := ⟨[]⟩

def lookup (matcher : AccessMatcher) : List (AccessMatcher × Record) → Record
  | [] => .blank
  | (other, record) :: entries => if other = matcher then record else lookup matcher entries

def record (ledger : Ledger) (matcher : AccessMatcher) : Record := lookup matcher ledger.entries

def insert (matcher : AccessMatcher) (record : Record) :
    List (AccessMatcher × Record) → List (AccessMatcher × Record)
  | [] => [(matcher, record)]
  | (other, old) :: entries =>
      if other = matcher then (other, record) :: entries
      else (other, old) :: insert matcher record entries

def update (ledger : Ledger) (matcher : AccessMatcher) (record : Record) : Ledger :=
  ⟨insert matcher record ledger.entries⟩

theorem lookup_insert (matcher other : AccessMatcher) (record : Record)
    (entries : List (AccessMatcher × Record)) :
    lookup other (insert matcher record entries)
      = if matcher = other then record else lookup other entries := by
  induction entries with
  | nil => simp [insert, lookup]
  | cons entry entries ih =>
      obtain ⟨holder, old⟩ := entry
      by_cases held : holder = matcher
      · subst held
        by_cases same : holder = other <;> simp [insert, lookup, same]
      · by_cases same : holder = other
        · subst same
          simp [insert, lookup, held, Ne.symm held]
        · simp [insert, lookup, held, same, ih]

@[simp]
theorem record_update_self (ledger : Ledger) (matcher : AccessMatcher) (record : Record) :
    (ledger.update matcher record).record matcher = record := by
  simp [update, Ledger.record, lookup_insert]

@[simp]
theorem record_update_other (ledger : Ledger) (matcher other : AccessMatcher) (record : Record)
    (different : matcher ≠ other) :
    (ledger.update matcher record).record other = ledger.record other := by
  simp [update, Ledger.record, lookup_insert, different]

def addRow (ledger : Ledger) (matcher : AccessMatcher) (row : List Operand) : Ledger :=
  let record := ledger.record matcher
  ledger.update matcher { record with rows := record.rows ++ [row] }

def bind (matcher : AccessMatcher) (members : List Operand) : EStateM Fault Ledger Unit := do
  let row ← matcher.row members
  modify fun ledger => ledger.addRow matcher row

def resolve (ledger : Ledger) (matcher : AccessMatcher) : Ledger :=
  ledger.update matcher { ledger.record matcher with resolved := true }

theorem bind_of_row (ledger : Ledger) (matcher : AccessMatcher) (members row : List Operand)
    (taken : matcher.row members = .ok row) : bind matcher members ledger = .ok () (ledger.addRow matcher row) := by
  rw [bind, taken]
  rfl

theorem bind_refused (ledger : Ledger) (matcher : AccessMatcher) (members : List Operand) (fault : Fault)
    (odd : matcher.row members = .error fault) : bind matcher members ledger = .error fault ledger := by
  rw [bind, odd]
  rfl

@[simp]
theorem record_resolve_self (ledger : Ledger) (matcher : AccessMatcher) (row : List Operand) :
    ((ledger.addRow matcher row).resolve matcher).record matcher
      = ⟨(ledger.record matcher).rows ++ [row], true⟩ := by
  simp [resolve, addRow]

@[simp]
theorem record_resolve_other (ledger : Ledger) (matcher other : AccessMatcher) (row : List Operand)
    (different : matcher ≠ other) :
    ((ledger.addRow matcher row).resolve matcher).record other = ledger.record other := by
  simp [resolve, addRow, different]

end Ledger

end ScheduleShape
