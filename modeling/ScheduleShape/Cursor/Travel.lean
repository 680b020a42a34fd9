import ScheduleShape.Cursor.Navigate

set_option autoImplicit false

namespace ScheduleShape

variable [Affine]

inductive Listing where
  | children
  | prevSiblings
  | nextSiblings
  | descendants
deriving DecidableEq, Repr

inductive Move where
  | root
  | parent
  | child (index : Int)
  | next (distance : Int)
  | prev (distance : Int)
  | among (listing : Listing) (position : Int)
deriving DecidableEq, Repr

namespace Cursor

def list (cursor : Cursor) : Listing → Except Fault (List Cursor)
  | .children => cursor.children
  | .prevSiblings => cursor.prevSiblings
  | .nextSiblings => cursor.nextSiblings
  | .descendants => cursor.descendants

def go (cursor : Cursor) : Move → Except Fault Cursor
  | .root => .ok cursor.toRoot
  | .parent => cursor.parent
  | .child index => cursor.child index
  | .next distance => cursor.next distance
  | .prev distance => cursor.prev distance
  | .among listing position => do pick "list" (← cursor.list listing) position

def travel (cursor : Cursor) : List Move → Except Fault Cursor
  | [] => .ok cursor
  | move :: moves => do (← cursor.go move).travel moves

def Reached (tree : Tree) (cursor : Cursor) : Prop :=
  ∃ moves, (startTree tree).travel moves = .ok cursor

-- The cursor is at an address of the tree, whether one asks it or walks its path anew.
structure Stands (cursor : Cursor) (tree : Tree) (address : List Nat) (node : Tree) : Prop where
  root : cursor.root = .tree tree
  path : cursor.path = stepsOf address
  inRange : ∀ above index below, address = above ++ index :: below →
    ∃ parent, tree.subtreeAt above = some parent ∧ index < parent.children.length
  walked : (Item.tree tree).walk cursor.path = .ok (.tree node)
  found : cursor.found = .ok (.tree node)
  kind : cursor.kind = .ok node.kind
  childCount : cursor.childCount = .ok node.children.length
  children : ∃ cursors, cursor.children = .ok cursors ∧ cursors.length = node.children.length
  back : ∀ index : Int, 0 ≤ index → index < node.children.length →
    ∃ below, cursor.child index = .ok below ∧ below.parent = .ok cursor

end Cursor

inductive ComesBefore : List Nat → List Nat → Prop where
  | above (address : List Nat) (index : Nat) (rest : List Nat) : ComesBefore address (address ++ index :: rest)
  | aside (common : List Nat) {index later : Nat} (smaller : index < later) (rest other : List Nat) :
      ComesBefore (common ++ index :: rest) (common ++ later :: other)

namespace Cursor

structure Enumerates (cursor : Cursor) (tree : Tree) (address : List Nat) (node : Tree) (found : List Cursor) :
    Prop where
  listed : cursor.descendants = .ok found
  among (other : Cursor) : other ∈ found ↔ ∃ rest, rest ≠ []
    ∧ (tree.subtreeAt (address ++ rest)).isSome ∧ other = inTree tree (address ++ rest)
  once : found.Nodup
  ordered : ∃ addresses : List (List Nat), addresses.Pairwise ComesBefore ∧ found = addresses.map (inTree tree)
  counted : found.length + 1 = node.size
  unfolds : cursor.descendants = (do
    let parts ← (← cursor.children).mapM fun child => do
      let below ← child.descendants
      pure (child :: below)
    pure parts.flatten)
  block (index : Nat) (small : index < node.children.length) : ∃ child before below after,
    cursor.child index = .ok child ∧ child.descendants = .ok below ∧ found = before ++ child :: below ++ after

structure Between (cursor parent : Cursor) (index count : Nat) (before after : List Cursor) : Prop where
  under : cursor.parent = .ok parent
  place : cursor.index = .ok (some (index : Int))
  counted : parent.childCount = .ok count
  earlier : cursor.prevSiblings = .ok before
  later : cursor.nextSiblings = .ok after
  listed : parent.children = .ok (before ++ cursor :: after)
  onward (distance : Int) :
    (∃ other, cursor.next distance = .ok other) ↔ 0 ≤ index + distance ∧ index + distance < count
  refused (distance : Int) (fault : Fault) (failed : cursor.next distance = .error fault) :
    fault = .cursorOutOfRange
  backward (distance : Int) : cursor.prev distance = cursor.next (-distance)
  further (distance : Int) (other : Cursor) (moved : cursor.next distance = .ok other) :
    (∀ more, other.next more = cursor.next (distance + more)) ∧ other.prev distance = .ok cursor
  amongEarlier (other : Cursor) : other ∈ before ↔ ∃ distance, 1 ≤ distance ∧ cursor.prev distance = .ok other
  amongLater (other : Cursor) : other ∈ after ↔ ∃ distance, 1 ≤ distance ∧ cursor.next distance = .ok other

-- Whether the other cursor is on or below this one: by the steps of the two paths, by the walk down and by
-- the way up.
structure Compares (cursor other : Cursor) : Prop where
  stepwise : cursor.isAncestorOf other
    = (decide (cursor.depth ≤ other.depth) && (other.path.zip cursor.path).all fun steps => steps.1 == steps.2)
  downward : ∃ below, cursor.descendants = .ok below
    ∧ (cursor.isAncestorOf other = true ↔ other = cursor ∨ other ∈ below)
  upward : cursor.isAncestorOf other = true ↔ ∃ count, other.travel (List.replicate count .parent) = .ok cursor

def Ancestry (tree : Tree) (cursor other : { cursor // Reached tree cursor }) : Prop :=
  cursor.val.isAncestorOf other.val = true

structure Lineage (tree : Tree) (cursor : Cursor) (ancestors : List Cursor) : Prop where
  among (other : Cursor) : other ∈ ancestors ↔ Reached tree other ∧ other.isAncestorOf cursor = true
  once : ancestors.Nodup
  chained : ancestors.Pairwise fun above below => above.isAncestorOf below = true
  counted : ancestors.length = cursor.depth + 1

end Cursor

end ScheduleShape
