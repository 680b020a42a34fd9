import ScheduleShape.Constraint.Agreement
import ScheduleShape.Finder.Search

set_option autoImplicit false

namespace ScheduleShape

variable [Affine]

def Side.choose {α : Type} (reads writes : α) : Side → α
  | .reads => reads
  | .writes => writes

namespace Finder

def findingsOf (reader writer : AccessMatcher) (first second : ConstraintList) : List Finding :=
  match first.compare second with
  | .ok agreed => if agreed.isEmpty then [] else [⟨reader, writer, agreed⟩]
  | .error _ => []

section

variable (finder : Finder)

def matchersOn (side : Side) : List AccessMatcher := side.choose finder.readers finder.writers

def candidatesOn (side : Side) (matcher : AccessMatcher) : List ConstraintList :=
  matcher.candidates (side.choose finder.reads finder.writes).accesses

def nested : List Finding :=
  finder.readers.flatMap fun reader =>
    finder.writers.flatMap fun writer =>
      (finder.candidatesOn .reads reader).flatMap fun first =>
        (finder.candidatesOn .writes writer).flatMap fun second => findingsOf reader writer first second

def answers : Side → ConstraintList → Bool
  | .reads, first => finder.writers.any fun writer =>
      (finder.candidatesOn .writes writer).any fun second => first.meets second
  | .writes, second => finder.readers.any fun reader =>
      (finder.candidatesOn .reads reader).any fun first => first.meets second

def bindingsOn (matcher : AccessMatcher) (side : Side) : List (List Operand) :=
  if matcher ∈ finder.matchersOn side then
    ((finder.candidatesOn side matcher).filter (finder.answers side)).map ConstraintList.terms
  else []

def bindings (matcher : AccessMatcher) : List (List Operand) :=
  finder.bindingsOn matcher .reads ++ finder.bindingsOn matcher .writes

end

end Finder

inductive Deed where
  | tell (event : Event)
  | record (key : CandidateKey) (list : ConstraintList)

def Operand.label? : Operand → Option Label
  | constraint held => some held.label
  | _ => none

def ConstraintList.labels (list : ConstraintList) : List Label := list.members.filterMap Operand.label?

def Finding.announcement (finding : Finding) : Event :=
  .agreement finding.reader finding.writer finding.agreed.labels

namespace Deed

def event? : Deed → Option Event
  | tell event => some event
  | record .. => none

def Fits : Deed → Prop
  | tell _ => True
  | record key list => key.matcher.row list.members = .ok list.terms

def perform (progress : Progress) : Deed → Progress
  | tell event => { progress with events := progress.events ++ [event] }
  | record key list =>
      if key ∈ progress.recorded.map Prod.fst then progress
      else {
        progress with
        ledger := (progress.ledger.addRow key.matcher list.terms).resolve key.matcher
        recorded := (key, list) :: progress.recorded }

def performAll (progress : Progress) (deeds : List Deed) : Progress := deeds.foldl perform progress

end Deed

namespace Finder

def pairDeeds (reader writer : AccessMatcher) (first second : ConstraintList × Nat) : List Deed :=
  (first.1.comparisonEvents second.1).map .tell
    ++ (findingsOf reader writer first.1 second.1).flatMap fun finding =>
      [.tell finding.announcement, .record ⟨.reads, reader, first.2⟩ first.1,
        .record ⟨.writes, writer, second.2⟩ second.1]

def holdDeeds (finder : Finder) (reader writer : AccessMatcher) : List Deed :=
  if reader.sharesLabel writer then
    (finder.candidatesOn .reads reader).zipIdx.flatMap fun first =>
      (finder.candidatesOn .writes writer).zipIdx.flatMap fun second => pairDeeds reader writer first second
  else []

def gatherDeeds (accesses : List Access) (matchers : List AccessMatcher) : List Deed :=
  matchers.flatMap fun matcher => (matcher.rejections accesses).map .tell

def deeds (finder : Finder) : List Deed :=
  gatherDeeds finder.reads.accesses finder.readers ++ (gatherDeeds finder.writes.accesses finder.writers
    ++ ((finder.readers.flatMap fun reader => finder.writers.flatMap fun writer =>
        finder.holdDeeds reader writer)
      ++ if finder.nested.isEmpty then [.tell .noAgreement] else []))

end Finder

end ScheduleShape
