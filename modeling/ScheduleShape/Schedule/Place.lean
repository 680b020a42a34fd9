import ScheduleShape.Schedule.Basic

set_option autoImplicit false

namespace ScheduleShape

structure Crumb where
  kind : ScheduleKind
  payload : String
  before : List Schedule
  after : List Schedule

namespace Crumb

def position (crumb : Crumb) : Nat :=
  crumb.before.length

def fill (crumb : Crumb) (child : Schedule) : Schedule :=
  .node crumb.kind crumb.payload (crumb.before ++ child :: crumb.after)

end Crumb

structure SchedulePlace where
  focus : Schedule
  above : List Crumb

namespace SchedulePlace

def start (schedule : Schedule) : SchedulePlace := ⟨schedule, []⟩

def hasParent (place : SchedulePlace) : Bool := !place.above.isEmpty

def parent? (place : SchedulePlace) : Option SchedulePlace :=
  match place.above with
  | [] => none
  | crumb :: above => some ⟨crumb.fill place.focus, above⟩

def position? (place : SchedulePlace) : Option Nat :=
  place.above.head?.map Crumb.position

def child? (place : SchedulePlace) (index : Nat) : Option SchedulePlace :=
  match place.focus with
  | .node kind payload children =>
      children[index]?.map fun child =>
        ⟨child, ⟨kind, payload, children.take index, children.drop (index + 1)⟩ :: place.above⟩

def descend? : SchedulePlace → List Nat → Option SchedulePlace
  | place, [] => some place
  | place, index :: address => (place.child? index).bind (·.descend? address)

-- Climbs to the root. The address grows at its front by the position left at each level.
def climb : Schedule → List Crumb → List Nat → Schedule × List Nat
  | focus, [], address => (focus, address)
  | focus, crumb :: above, address => climb (crumb.fill focus) above (crumb.position :: address)

def root (place : SchedulePlace) : Schedule :=
  (climb place.focus place.above []).1

def address (place : SchedulePlace) : List Nat :=
  (climb place.focus place.above []).2

theorem climb_past (focus : Schedule) (above : List Crumb) (address : List Nat) :
    climb focus above address = ((climb focus above []).1, (climb focus above []).2 ++ address) := by
  induction above generalizing focus address with
  | nil => rfl
  | cons crumb above ih =>
      rw [climb, ih, climb, ih (crumb.fill focus) [crumb.position], List.append_assoc]
      rfl

theorem root_of_parent (place parent : SchedulePlace) (above : place.parent? = some parent) :
    place.root = parent.root := by
  obtain ⟨focus, crumbs⟩ := place
  cases crumbs with
  | nil => cases above
  | cons crumb crumbs =>
      cases above
      rw [root, climb, climb_past, root]

theorem address_of_parent (place parent : SchedulePlace) (index : Nat)
    (above : place.parent? = some parent) (position : place.position? = some index) :
    place.address = parent.address ++ [index] := by
  obtain ⟨focus, crumbs⟩ := place
  cases crumbs with
  | nil => cases above
  | cons crumb crumbs =>
      cases above
      cases position
      rw [address, climb, climb_past, address]

theorem parent_of_child (place below : SchedulePlace) (index : Nat)
    (entered : place.child? index = some below) :
    below.parent? = some place ∧ below.position? = some index := by
  obtain ⟨⟨kind, payload, children⟩, above⟩ := place
  obtain ⟨child, found, rfl⟩ := Option.map_eq_some_iff.mp entered
  obtain ⟨within, rfl⟩ := List.getElem?_eq_some_iff.mp found
  have length : (children.take index).length = index := by
    rw [List.length_take]
    omega
  constructor
  · simp [parent?, Crumb.fill]
  · simp [position?, Crumb.position, length]

theorem focus_of_descend (place : SchedulePlace) (address : List Nat) :
    (place.descend? address).map focus = place.focus.subtreeAt address := by
  induction address generalizing place with
  | nil => rfl
  | cons index address ih =>
      obtain ⟨⟨kind, payload, children⟩, above⟩ := place
      simp only [descend?, child?, Schedule.subtreeAt, Schedule.children]
      cases children[index]? with
      | none => rfl
      | some child => exact ih _

theorem descend_append (place : SchedulePlace) (first second : List Nat) :
    place.descend? (first ++ second) = (place.descend? first).bind (·.descend? second) := by
  induction first generalizing place with
  | nil => rfl
  | cons index rest ih =>
      simp only [List.cons_append, descend?]
      cases place.child? index with
      | none => rfl
      | some child => exact ih child

theorem climb_of_descend (place below : SchedulePlace) (address : List Nat)
    (descended : place.descend? address = some below) :
    below.root = place.root ∧ below.address = place.address ++ address := by
  induction address generalizing place with
  | nil =>
      cases descended
      simp
  | cons index address ih =>
      obtain ⟨child, entered, further⟩ := Option.bind_eq_some_iff.mp descended
      obtain ⟨parent, position⟩ := parent_of_child place child index entered
      obtain ⟨sameRoot, longer⟩ := ih child further
      rw [sameRoot, longer, root_of_parent child place parent,
        address_of_parent child place index parent position, List.append_assoc]
      exact ⟨rfl, rfl⟩

end SchedulePlace

end ScheduleShape
