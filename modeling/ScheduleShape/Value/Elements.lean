import ScheduleShape.Fault

set_option autoImplicit false

namespace ScheduleShape

section

universe u

variable {α : Type u}

def offsetOf (length : Nat) (position : Int) : Nat :=
  if position < 0 then (length + position).toNat else position.toNat

def pick? (items : List α) (position : Int) : Option α :=
  if position < -(items.length : Int) then none else items[offsetOf items.length position]?

def before (items : List α) : Option Int → List α
  | none => items
  | some position => items.take (offsetOf items.length position)

def onward (items : List α) (position : Int) : List α :=
  items.drop (offsetOf items.length position)

theorem pick_option_at (items : List α) (index : Nat) : pick? items (index : Int) = items[index]? := by
  have small : ¬ ((index : Int) < -(items.length : Int)) := by omega
  have front : ¬ ((index : Int) < 0) := by omega
  simp [pick?, offsetOf, small, front]

theorem before_map {β : Type u} (change : α → β) (items : List α) (position : Option Int) :
    before (items.map change) position = (before items position).map change := by
  cases position with
  | none => rfl
  | some position => rw [before, before, List.length_map, List.map_take]

theorem onward_map {β : Type u} (change : α → β) (items : List α) (position : Int) :
    onward (items.map change) position = (onward items position).map change := by
  rw [onward, onward, List.length_map, List.map_drop]

theorem mem_of_before {items : List α} {position : Option Int} {item : α}
    (member : item ∈ before items position) : item ∈ items := by
  cases position with
  | none => exact member
  | some position => exact List.mem_of_mem_take member

end

universe u

def isWordSized (position : Int) : Bool :=
  -0x8000000000000000 ≤ position && position < 0x8000000000000000

-- The element at a position of a container whose type is named. What is missed for lying outside
-- and what no machine word can say are told apart.
def pick {α : Type u} (container : String) (items : List α) (position : Int) : Except Fault α :=
  match pick? items position with
  | some item => .ok item
  | none => .error (if isWordSized position then .indexOutOfRange container else .indexTooWide)

@[simp]
theorem pick_at {α : Type u} (container : String) {items : List α} {index : Nat}
    (small : index < items.length) :
    pick container items (index : Int) = .ok items[index] := by
  simp [pick, pick_option_at, small]

namespace Value

def size : Value → Except Fault Nat
  | text content => .ok content.length
  | list items => .ok items.length
  | dict entries => .ok entries.length
  | other => .error (.noLength other.typeName)

def element (position : Int) : Value → Except Fault Value
  | text content => (pick "string" content.toList position).map fun c => text c.toString
  | list items => pick "list" items position
  | dict _ => .error (.noKey (int position))
  | other => .error (.notSubscriptable other.typeName)

def elements : Value → Except Fault (List Value)
  | text content => .ok (content.toList.map fun c => text c.toString)
  | list items => .ok items
  | dict entries => .ok (entries.map fun entry => text entry.1)
  | other => .error (.notIterable other.typeName)

end Value

end ScheduleShape
