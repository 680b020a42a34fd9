import ScheduleShape.Tree.Basic

set_option autoImplicit false

namespace ScheduleShape

variable [Affine]

inductive Field where
  | children
  | payload
  | other (name : String)
deriving DecidableEq, Repr

def Field.name : Field → String
  | children => "children"
  | payload => "payload"
  | other name => name

inductive Step where
  | child (index : Int)
  | payload (index : Option Int)
deriving DecidableEq, Repr

namespace Step

def field : Step → Field
  | child _ => .children
  | payload _ => .payload

def index : Step → Option Int
  | child index => some index
  | payload index => index

end Step

inductive Holding where
  | forest (trees : List Tree)
  | content (held : Payload)

namespace Holding

def size : Holding → Except Fault Nat
  | forest trees => .ok trees.length
  | content held => held.size

def needsIndex : Holding → Bool
  | forest _ => true
  | content (.value (.list _)) => true
  | content _ => false

-- The step down into the part. The index is checked against the number of elements.
def step (holding : Holding) (index : Option Int) : Except Fault Step :=
  match index with
  | some position =>
      if position < 0 then .error .cursorOutOfRange
      else match holding.size with
        | .error fault => .error fault
        | .ok size =>
            if position < size then
              match holding with
              | forest _ => .ok (.child position)
              | content _ => .ok (.payload (some position))
            else .error .cursorOutOfRange
  | none =>
      if holding.needsIndex then .error .childrenNeedIndex else .ok (.payload none)

end Holding

namespace Item

def part (item : Item) (field : Field) : Except Fault Holding :=
  match item, field with
  | tree (.carrier _ _ children), .children => .ok (.forest children)
  | tree (.carrier _ payload _), .payload => .ok (.content payload)
  | tree (.group _ children), .children => .ok (.forest children)
  | item, field => .error (.noField item.typeName field.name)

def step (item : Item) (step : Step) : Except Fault Item := do
  match ← item.part step.field, step.index with
  | .forest trees, some position => (pick "list" trees position).map tree
  | .forest _, none => .error .childrenNeedIndex
  | .content held, some position => (held.element position).map content
  | .content held, none => .ok (content held)

def walk : Item → List Step → Except Fault Item
  | item, [] => .ok item
  | item, step :: path => do (← item.step step).walk path

theorem walk_past (item : Item) (path rest : List Step) :
    item.walk (path ++ rest) = (item.walk path).bind (·.walk rest) := by
  induction path generalizing item with
  | nil => rfl
  | cons step path ih =>
      simp only [List.cons_append, walk, bind, Except.bind]
      cases item.step step with
      | error fault => rfl
      | ok next => exact ih next

@[simp]
theorem walk_append (item : Item) (path : List Step) (step : Step) :
    item.walk (path ++ [step]) = (item.walk path).bind (·.step step) := by
  rw [walk_past]
  cases item.walk path with
  | error fault => rfl
  | ok found =>
      change (found.step step).bind _ = found.step step
      cases found.step step <;> rfl

end Item

structure Cursor where
  root : Item
  path : List Step
  found : Except Fault Item := root.walk path
  found_eq : found = root.walk path := by rfl

namespace Cursor

theorem eq_of_place {first second : Cursor} (root : first.root = second.root)
    (path : first.path = second.path) : first = second := by
  obtain ⟨_, _, _, found⟩ := first
  obtain ⟨_, _, _, otherFound⟩ := second
  cases root
  cases path
  cases found
  cases otherFound
  rfl

def start (item : Item) : Cursor where
  root := item
  path := []

def startTree (tree : Tree) : Cursor := start (.tree tree)

def stepsOf (address : List Nat) : List Step :=
  address.map fun (index : Nat) => .child index

def inTree (tree : Tree) (address : List Nat) : Cursor where
  root := .tree tree
  path := stepsOf address

def follow (cursor : Cursor) (step : Step) : Cursor where
  root := cursor.root
  path := cursor.path ++ [step]
  found := cursor.found.bind (·.step step)
  found_eq := by rw [Item.walk_append, cursor.found_eq]

def descend (cursor : Cursor) : List Nat → Cursor
  | [] => cursor
  | index :: address => (cursor.follow (.child index)).descend address

@[simp]
theorem descend_nil (cursor : Cursor) : cursor.descend [] = cursor := rfl

@[simp]
theorem descend_root (cursor : Cursor) (address : List Nat) :
    (cursor.descend address).root = cursor.root := by
  induction address generalizing cursor with
  | nil => rfl
  | cons index address ih => exact ih (cursor.follow (.child index))

@[simp]
theorem descend_path (cursor : Cursor) (address : List Nat) :
    (cursor.descend address).path = cursor.path ++ stepsOf address := by
  induction address generalizing cursor with
  | nil => exact (List.append_nil cursor.path).symm
  | cons index address ih =>
      have below := ih (cursor.follow (.child index))
      rw [descend, below]
      exact List.append_assoc cursor.path [.child index] (stepsOf address)

def up (cursor : Cursor) : Cursor where
  root := cursor.root
  path := cursor.path.dropLast

def depth (cursor : Cursor) : Nat := cursor.path.length

def isRoot (cursor : Cursor) : Bool := cursor.path.isEmpty

def kind (cursor : Cursor) : Except Fault Kind := cursor.found.bind Item.kind

def payload (cursor : Cursor) : Except Fault Payload := cursor.found.bind Item.payload

def childCount (cursor : Cursor) : Except Fault Nat :=
  (cursor.found.bind Item.children).map List.length

def index (cursor : Cursor) : Except Fault (Option Int) :=
  match cursor.path.getLast? with
  | some step => .ok step.index
  | none => .error .rootHasNoIndex

def isAncestorOf (cursor other : Cursor) : Bool :=
  cursor.path.isPrefixOf other.path

def samePlace (cursor other : Cursor) : Bool :=
  cursor.path == other.path

theorem same_place_iff {first second : Cursor} (root : first.root = second.root) :
    first.samePlace second = true ↔ first = second := by
  constructor
  · intro same
    exact eq_of_place root (by simpa [samePlace] using same)
  · intro equal
    simp [samePlace, equal]

end Cursor

end ScheduleShape
