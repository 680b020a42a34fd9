import ScheduleShape.Finder.Deed
import ScheduleShape.Finder.Search

set_option autoImplicit false

namespace ScheduleShape

variable [Affine]

structure Report where
  outcome : Except Fault (List Finding)
  events : List Event

namespace Finder

def report (finder : Finder) (ledger : Ledger) : Report × Ledger :=
  let ended := finder.find ledger
  (⟨outcomeOf ended, (stateOf ended).events⟩, (stateOf ended).ledger)

def reports (finder : Finder) : Nat → Ledger → List Report × Ledger
  | 0, ledger => ([], ledger)
  | count + 1, ledger =>
      let first := finder.report ledger
      let later := finder.reports count first.2
      (first.1 :: later.1, later.2)

structure Adds (finder : Finder) (report : Report) (block : AccessMatcher → List (List Operand)) : Prop where
  reported : ∀ ledger, (finder.report ledger).1 = report
  rows : ∀ ledger matcher, ((finder.report ledger).2.record matcher).rows
    = (ledger.record matcher).rows ++ block matcher
  resolved : ∀ ledger matcher, ((finder.report ledger).2.record matcher).resolved
    = ((ledger.record matcher).resolved || !(block matcher).isEmpty)

end Finder

def Record.Sound (record : Record) : Prop := record.resolved = true ↔ 0 < record.rows.length

inductive Usage where
  | search (finder : Finder)
  | bind (matcher : AccessMatcher) (members : List Operand)
  | resolve (matcher : AccessMatcher)

namespace Usage

def run : Usage → EStateM Fault Ledger Unit
  | search finder => fun ledger => match finder.find ledger with
    | .ok _ progress => .ok () progress.ledger
    | .error fault progress => .error fault progress.ledger
  | bind matcher members => Ledger.bind matcher members
  | resolve matcher => modify fun ledger => ledger.resolve matcher

def perform (ledger : Ledger) (usage : Usage) : Ledger := stateOf (usage.run ledger)

def performAll (ledger : Ledger) (usages : List Usage) : Ledger := usages.foldl perform ledger

def byHand? : Usage → Option AccessMatcher
  | search _ => none
  | bind matcher _ => some matcher
  | resolve matcher => some matcher

end Usage

namespace Finder

def recordings (finder : Finder) (ledger : Ledger) (matcher : AccessMatcher) : List (List Operand) :=
  ((stateOf (finder.find ledger)).recorded.reverse.filter fun entry => entry.1.matcher = matcher).map (·.2.members)

end Finder

namespace Usage

def recordings (ledger : Ledger) (matcher : AccessMatcher) : Usage → List (List Operand)
  | search finder => finder.recordings ledger matcher
  | bind other members => match Ledger.bind other members ledger with
    | .ok _ _ => if other = matcher then [members] else []
    | .error _ _ => []
  | resolve _ => []

def chronicle (ledger : Ledger) (matcher : AccessMatcher) : List Usage → List (List Operand)
  | [] => []
  | usage :: usages =>
      usage.recordings ledger matcher ++ chronicle (usage.perform ledger) matcher usages

end Usage

def AccessMatcher.Fits (matcher : AccessMatcher) (members : List Operand) : Prop :=
  members.map Operand.label? = matcher.labels.map some

structure Record.Tabulates (record : Record) (matcher : AccessMatcher) (chronicle : List (List Operand)) :
    Prop where
  fitting : ∀ members ∈ chronicle, matcher.Fits members
  counted : record.rows.length = chronicle.length
  full : ∀ row ∈ record.rows, row.length = matcher.size
  columns : ∀ position, position < matcher.size → ∃ column, record.column position = .ok column
    ∧ column.length = record.rows.length
    ∧ ∀ (count : Nat) (members : List Operand), chronicle[count]? = some members →
      ∃ constraint, members[position]? = some (.constraint constraint)
        ∧ column[count]? = some constraint.term

end ScheduleShape
