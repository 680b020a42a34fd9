import ScheduleShape.Access.Ledger
import ScheduleShape.Constraint.Basic
import ScheduleShape.Constraint.Candidates

set_option autoImplicit false

namespace ScheduleShape

variable [Affine]

def matchersOf : List Operand → Except Fault (List AccessMatcher)
  | [] => .ok []
  | .matcher matcher :: operands => (matchersOf operands).map (matcher :: ·)
  | operand :: _ => .error (.notAccessMatcher operand.typeName)

namespace Finder

def ofKind (kind : AccessKind) (matchers : List AccessMatcher) : List AccessMatcher :=
  matchers.filter fun matcher => matcher.kind = kind

def merge (matchers : List AccessMatcher) (more : List AccessMatcher) : List AccessMatcher :=
  more.foldl (fun merged matcher => if matcher ∈ merged then merged else merged ++ [matcher])
    matchers

def ofMatchers (reads writes : Operand) (matchers : List AccessMatcher) : Finder where
  reads
  writes
  readers := merge (ofKind .read matchers) (ofKind .readAndWrite matchers)
  writers := merge (ofKind .write matchers) (ofKind .readAndWrite matchers)
  both := ofKind .readAndWrite matchers

def make (reads writes matchers : Operand) : Except Fault Finder := do
  let matchers ← matchersOf (← matchers.elements)
  pure (ofMatchers reads writes matchers)

end Finder

structure Finding where
  reader : AccessMatcher
  writer : AccessMatcher
  agreed : ConstraintList

inductive Side where
  | reads
  | writes
deriving DecidableEq, Repr

-- A candidate is known by the side of its matcher, the matcher, and its place among the
-- candidates that the matcher has on that side.
structure CandidateKey where
  side : Side
  matcher : AccessMatcher
  place : Nat
deriving DecidableEq

structure Progress where
  ledger : Ledger
  recorded : List (CandidateKey × ConstraintList)
  events : List Event

-- A computation that keeps its progress when it stops with a fault.
abbrev Search := EStateM Fault Progress

namespace Search

def tell (events : List Event) : Search Unit :=
  modify fun progress => { progress with events := progress.events ++ events }

def telling {α : Type} (run : Told α) : Search α :=
  onPart Progress.events (fun progress events => { progress with events }) run

def keeping (run : EStateM Fault Ledger Unit) : Search Unit :=
  onPart Progress.ledger (fun progress ledger => { progress with ledger }) run

def forEach {α β : Type} (visit : α → Search (List β)) : List α → Search (List β)
  | [] => pure []
  | item :: items => do
      let found ← visit item
      let rest ← forEach visit items
      pure (found ++ rest)

def gather (relation : Operand) : List AccessMatcher → Search (AccessMatcher → List ConstraintList)
  | [] => pure fun _ => []
  | matcher :: matchers => do
      let accesses ← relation.toRelation
      let lists ← telling (matcher.draw accesses)
      let rest ← gather relation matchers
      pure fun other => if other = matcher then lists else rest other

def record (key : CandidateKey) (list : ConstraintList) : Search Unit := do
  let progress ← get
  if key ∈ progress.recorded.map Prod.fst then pure ()
  else do
    set { progress with recorded := (key, list) :: progress.recorded }
    keeping (Ledger.bind key.matcher list.members)
    keeping (modify fun ledger => ledger.resolve key.matcher)

end Search

namespace Finder

def tryPair (reader writer : AccessMatcher) (first second : ConstraintList × Nat) :
    Search (List Finding) := do
  Search.tell (first.1.comparisonEvents second.1)
  let agreed ← first.1.compare second.1
  if agreed.isEmpty then pure []
  else do
    let constraints ← agreed.constraints
    Search.tell [.agreement reader writer (constraints.map Constraint.label)]
    Search.record ⟨.reads, reader, first.2⟩ first.1
    Search.record ⟨.writes, writer, second.2⟩ second.1
    pure [⟨reader, writer, agreed⟩]

def search (finder : Finder) : Search (List Finding) := do
  let readLists ← Search.gather finder.reads finder.readers
  let writeLists ← Search.gather finder.writes finder.writers
  let findings ← Search.forEach (fun reader =>
    Search.forEach (fun writer =>
      if reader.sharesLabel writer then
        Search.forEach (fun first =>
          Search.forEach (fun second => tryPair reader writer first second)
            (writeLists writer).zipIdx)
          (readLists reader).zipIdx
      else pure [])
      finder.writers)
    finder.readers
  if findings.isEmpty then Search.tell [.noAgreement]
  pure findings

def find (finder : Finder) (ledger : Ledger) : EStateM.Result Fault Progress (List Finding) :=
  finder.search.run ⟨ledger, [], []⟩

end Finder

end ScheduleShape
