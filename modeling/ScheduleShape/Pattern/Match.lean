import ScheduleShape.Cursor.Navigate
import ScheduleShape.Outcome
import ScheduleShape.Pattern.Basic

set_option autoImplicit false

namespace ScheduleShape

variable [Affine]

structure Memory where
  slots : Slots
  trace : List (String × List Step)

namespace Memory

def empty : Memory where
  slots _ := none
  trace := []

def put (memory : Memory) (slot : String) (cursor : Option Cursor) : Memory :=
  { memory with slots := fun name => if name = slot then cursor else memory.slots name }

def putAll (memory : Memory) (cursor : Cursor) (captures : List (List Nat × String)) : Memory :=
  captures.foldl (fun memory entry => memory.put entry.2 (some (cursor.descend entry.1))) memory

def note (memory : Memory) (tag : String) (path : List Step) : Memory :=
  { memory with trace := memory.trace ++ [(tag, path)] }

@[simp]
theorem put_self (memory : Memory) (slot : String) (cursor : Option Cursor) :
    (memory.put slot cursor).slots slot = cursor := by
  simp [put]

@[simp]
theorem put_other (memory : Memory) (slot other : String) (cursor : Option Cursor)
    (different : other ≠ slot) : (memory.put slot cursor).slots other = memory.slots other := by
  simp [put, different]

theorem put_all_append (memory : Memory) (cursor : Cursor) (captures later : List (List Nat × String)) :
    memory.putAll cursor (captures ++ later) = (memory.putAll cursor captures).putAll cursor later :=
  List.foldl_append

theorem put_all_congr (captures : List (List Nat × String)) (cursor : Cursor) (memory other : Memory)
    (same : memory.slots = other.slots) :
    (memory.putAll cursor captures).slots = (other.putAll cursor captures).slots := by
  induction captures generalizing memory other with
  | nil => exact same
  | cons entry captures ih => exact ih _ _ (by simp [put, same])

theorem put_all_other (captures : List (List Nat × String)) (cursor : Cursor) (memory : Memory)
    (slot : String) (uncaptured : ∀ entry ∈ captures, entry.2 ≠ slot) :
    (memory.putAll cursor captures).slots slot = memory.slots slot := by
  induction captures generalizing memory with
  | nil => rfl
  | cons entry captures ih =>
      have later := ih (memory.put entry.2 (some (cursor.descend entry.1)))
        fun other among => uncaptured other (List.mem_cons_of_mem entry among)
      exact later.trans (put_other memory entry.2 slot _ fun same => uncaptured entry List.mem_cons_self same.symm)

end Memory

abbrev Run := EStateM Fault Memory

abbrev Undo := List (String × Option Cursor)

namespace Undo

-- Puts back what the slots held, from the latest capture to the first.
def restore (undo : Undo) (memory : Memory) : Memory :=
  undo.foldl (fun memory entry => memory.put entry.1 entry.2) memory

end Undo

def KindTest.passes (test : KindTest) (cursor : Cursor) : Except Fault Bool :=
  match test with
  | .any => .ok true
  | .exactly kind => cursor.kind.map (· == kind)

def capture (slot : Option String) (cursor : Cursor) (undo : Undo) : Run Undo :=
  match slot with
  | none => pure undo
  | some name => do
      let memory ← get
      set (memory.put name (some cursor))
      pure ((name, memory.slots name) :: undo)

def settle (lined : Run (Bool × Undo)) : Run Bool := do
  let (matched, undo) ← lined
  if matched then pure true
  else do
    modify undo.restore
    pure false

def firstPasses (passes : Cursor → Run Bool) : List Cursor → Run Bool
  | [] => pure false
  | cursor :: cursors => do
      if ← passes cursor then pure true else firstPasses passes cursors

-- Whether a node has as many children as there are patterns for them; no patterns leave the
-- children open, and then they are not counted.
def fitsChildren (patterns : List Pattern) (cursor : Cursor) : Except Fault Bool :=
  if patterns.isEmpty then .ok true else cursor.childCount.map (· == patterns.length)

mutual

def Pattern.align : Pattern → Cursor → Undo → Run (Bool × Undo)
  | .value held, _, _ => throw (.noField held.typeName "node_type")
  | .node test children guard slot, cursor, undo => do
      if ← test.passes cursor then
        if ← Guard.admits guard cursor then
          if ← fitsChildren children cursor then
            let (aligned, undo) ← Pattern.alignForest children cursor 0 undo
            if aligned then
              let undo ← capture slot cursor undo
              pure (true, undo)
            else pure (false, undo)
          else pure (false, undo)
        else pure (false, undo)
      else pure (false, undo)

def Pattern.alignForest : List Pattern → Cursor → Nat → Undo → Run (Bool × Undo)
  | [], _, _, undo => pure (true, undo)
  | pattern :: patterns, cursor, index, undo => do
      let (aligned, undo) ← pattern.align (cursor.follow (.child index)) undo
      if aligned then Pattern.alignForest patterns cursor (index + 1) undo else pure (false, undo)

def Guard.admits : Option Guard → Cursor → Run Bool
  | none, _ => pure true
  | some guard, cursor => guard.holds cursor

def Guard.holds : Guard → Cursor → Run Bool
  | .prevSibling sibling, cursor => do
      firstPasses (fun other => settle (sibling.align other [])) (← cursor.prevSiblings)
  | .nextSibling sibling, cursor => do
      firstPasses (fun other => settle (sibling.align other [])) (← cursor.nextSiblings)
  | .sibling sibling, cursor => do
      if ← firstPasses (fun other => settle (sibling.align other [])) (← cursor.prevSiblings) then
        pure true
      else firstPasses (fun other => settle (sibling.align other [])) (← cursor.nextSiblings)
  | .descendant below, cursor => do
      firstPasses (fun other => settle (below.align other [])) (← cursor.descendants)
  | .matching (.value held), _ => throw (.notPattern held.typeName)
  | .matching (.node test children guard slot), cursor =>
      settle ((Pattern.node test children guard slot).align cursor [])
  | .test ask, cursor => do
      let memory ← get
      ask cursor memory.slots
  | .negation guard, cursor => do pure !(← guard.holds cursor)
  | .all guards, cursor => Guard.allHold guards cursor
  | .some guards, cursor => Guard.someHolds guards cursor
  | .noted tag guard, cursor => do
      modify (·.note tag cursor.path)
      guard.holds cursor

def Guard.allHold : List Guard → Cursor → Run Bool
  | [], _ => pure true
  | guard :: guards, cursor => do
      if ← guard.holds cursor then Guard.allHold guards cursor else pure false

def Guard.someHolds : List Guard → Cursor → Run Bool
  | [], _ => pure false
  | guard :: guards, cursor => do
      if ← guard.holds cursor then pure true else Guard.someHolds guards cursor

end

inductive Target where
  | cursor (here : Cursor)
  | tree (node : Tree)
  | schedule (source : Schedule)
  | place (spot : SchedulePlace)
  | content (held : Payload)

def Target.toCursor : Target → Except Fault Cursor
  | cursor here => .ok here
  | tree node => .ok (.startTree node)
  | schedule source => Cursor.ofPlace (.start source)
  | place spot => Cursor.ofPlace spot
  | content held => .error (.notMatchable held.className)

namespace Pattern

def matchAt (pattern : Pattern) (cursor : Cursor) : Run Bool :=
  settle (pattern.align cursor [])

def isMatching (pattern : Pattern) (target : Target) : Run Bool :=
  match pattern with
  | value held => throw (.notPattern held.typeName)
  | node test children guard slot => do
      let cursor ← target.toCursor
      (node test children guard slot).matchAt cursor

theorem is_matching_reached (test : KindTest) (children : List Pattern) (guard : Option Guard)
    (slot : Option String) (target : Target) (cursor : Cursor) (reached : target.toCursor = .ok cursor) :
    (node test children guard slot).isMatching target = (node test children guard slot).matchAt cursor := by
  rw [isMatching, reached]
  rfl

def matchesAmong (pattern : Pattern) : List Cursor → Run (List Cursor)
  | [] => pure []
  | cursor :: cursors => do
      let matched ← pattern.matchAt cursor
      let found ← matchesAmong pattern cursors
      pure (if matched then cursor :: found else found)

-- The nodes of a subtree at which the pattern matches, in preorder. The subtree is walked before
-- the first match is tried.
def findAll (pattern : Pattern) (target : Target) : Run (List Cursor) := do
  let cursor ← target.toCursor
  let below ← cursor.descendants
  matchesAmong pattern (cursor :: below)

end Pattern

end ScheduleShape
