import Mathlib.Data.List.Forall2
import ScheduleShape.Finder.Deed

set_option autoImplicit false

namespace ScheduleShape

variable [Affine]

namespace Event

def announces (event : Event) : Bool := event.level = .info && event.origin = .finder

def concludes (event : Event) : Bool := event.level = .debug && event.origin = .finder

def deniesComparison : Event → Bool
  | aritiesDiffer _ _ => true
  | _ => false

end Event

def Finding.ReadsAs (finding : Finding) (text : String) : Prop :=
  ∃ constraints, finding.agreed.constraints = .ok constraints
    ∧ text = finding.reader.kind.name ++ "(" ++ ", ".intercalate (finding.reader.labels.map Label.text) ++ ")"
      ++ " and "
      ++ (finding.writer.kind.name ++ "(" ++ ", ".intercalate (finding.writer.labels.map Label.text) ++ ")")
      ++ " agree on " ++ ", ".intercalate (constraints.map fun constraint => constraint.label.text)

structure Trial where
  reader : AccessMatcher
  writer : AccessMatcher
  first : ConstraintList
  second : ConstraintList

namespace Trial

def findings (trial : Trial) : List Finding :=
  Finder.findingsOf trial.reader trial.writer trial.first trial.second

def told (trial : Trial) : List Event :=
  trial.first.comparisonEvents trial.second ++ trial.findings.map Finding.announcement

def uneven (trial : Trial) : Bool := trial.reader.size ≠ trial.writer.size

def denial (trial : Trial) : Event := .aritiesDiffer trial.reader.size trial.writer.size

end Trial

namespace Finder

variable (finder : Finder)

def trials : List Trial :=
  finder.readers.flatMap fun reader => finder.writers.flatMap fun writer =>
    if reader.sharesLabel writer then
      (finder.candidatesOn .reads reader).flatMap fun first =>
        (finder.candidatesOn .writes writer).map fun second => ⟨reader, writer, first, second⟩
    else []

def closing : List Event := if finder.nested.isEmpty then [.noAgreement] else []

def log : List Event :=
  finder.readers.flatMap (·.rejections finder.reads.accesses)
    ++ (finder.writers.flatMap (·.rejections finder.writes.accesses)
      ++ (finder.trials.flatMap Trial.told ++ finder.closing))

structure Logs (findings : List Finding) (events : List Event) : Prop where
  announced : List.Forall₂ Finding.ReadsAs findings ((events.filter Event.announces).map Event.message)
  concluded : (events.filter Event.concludes).map Event.message
    = if findings = [] then ["no consistent read/write matcher pair"] else []
  last : findings = [] → ∃ before, events = before ++ [.noAgreement]
  denied : events.filter Event.deniesComparison = (finder.trials.filter Trial.uneven).map Trial.denial

end Finder

end ScheduleShape
