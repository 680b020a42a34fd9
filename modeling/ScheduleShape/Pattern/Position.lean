import ScheduleShape.Pattern.Basic

set_option autoImplicit false

namespace ScheduleShape

variable [Affine]

-- A position comes before another one, and nothing below it does not: it is to the left of the other.
def Precedes (first second : List Nat) : Prop :=
  first < second ∧ ¬ first <+: second

instance (first second : List Nat) : Decidable (Precedes first second) :=
  inferInstanceAs (Decidable (_ ∧ _))

def Pattern.slot? : Pattern → Option String
  | .node _ _ _ slot => slot
  | .value _ => none

mutual

def Pattern.postorder : Pattern → List (List Nat × Pattern)
  | .node test children guard slot =>
      Pattern.forestPostorder 0 children ++ [([], .node test children guard slot)]
  | .value held => [([], .value held)]

def Pattern.forestPostorder (index : Nat) : List Pattern → List (List Nat × Pattern)
  | [] => []
  | pattern :: patterns =>
      pattern.postorder.map (fun entry => (index :: entry.1, entry.2))
        ++ Pattern.forestPostorder (index + 1) patterns

end

mutual

def Pattern.preorder : Pattern → List (List Nat × Pattern)
  | .node test children guard slot =>
      ([], .node test children guard slot) :: Pattern.forestPreorder 0 children
  | .value held => [([], .value held)]

def Pattern.forestPreorder (index : Nat) : List Pattern → List (List Nat × Pattern)
  | [] => []
  | pattern :: patterns =>
      pattern.preorder.map (fun entry => (index :: entry.1, entry.2))
        ++ Pattern.forestPreorder (index + 1) patterns

end

def Pattern.guard? : Pattern → Option Guard
  | .node _ _ guard _ => guard
  | .value _ => none

def Pattern.guarded (pattern : Pattern) : List (List Nat) :=
  (pattern.preorder.filter fun entry => entry.2.guard?.isSome).map Prod.fst

def Pattern.captures (pattern : Pattern) : List (List Nat × String) :=
  pattern.postorder.filterMap fun entry => entry.2.slot?.map fun slot => (entry.1, slot)

def Pattern.ownSlots (pattern : Pattern) : List String :=
  pattern.postorder.filterMap fun entry => entry.2.slot?

def lastCarrier? (slot : String) (entries : List (List Nat × Pattern)) :
    Option (List Nat × Pattern) :=
  entries.reverse.find? fun entry => entry.2.slot? == some slot

mutual

def Pattern.guardSlots : Pattern → List String
  | .value _ => []
  | .node _ children guard _ => Pattern.forestGuardSlots children ++ Guard.slotsOf guard

def Pattern.forestGuardSlots : List Pattern → List String
  | [] => []
  | pattern :: patterns => pattern.guardSlots ++ Pattern.forestGuardSlots patterns

def Guard.slotsOf : Option Guard → List String
  | none => []
  | some guard => guard.slots

def Guard.slots : Guard → List String
  | .prevSibling sibling => sibling.ownSlots ++ sibling.guardSlots
  | .nextSibling sibling => sibling.ownSlots ++ sibling.guardSlots
  | .sibling sibling => sibling.ownSlots ++ sibling.guardSlots
  | .descendant below => below.ownSlots ++ below.guardSlots
  | .matching pattern => pattern.ownSlots ++ pattern.guardSlots
  | .test _ => []
  | .negation guard => guard.slots
  | .all guards => Guard.allSlots guards
  | .some guards => Guard.allSlots guards
  | .noted _ guard => guard.slots

def Guard.allSlots : List Guard → List String
  | [] => []
  | guard :: guards => guard.slots ++ Guard.allSlots guards

end

namespace Pattern

theorem forest_own_slots (patterns : List Pattern) (index : Nat) :
    ((forestPostorder index patterns).filterMap fun entry => entry.2.slot?)
      = patterns.flatMap ownSlots := by
  induction patterns generalizing index with
  | nil => rfl
  | cons pattern patterns ih =>
      rw [forestPostorder, List.filterMap_append, List.filterMap_map, ih, List.flatMap_cons]
      rfl

theorem own_slots_node (test : KindTest) (children : List Pattern) (guard : Option Guard)
    (slot : Option String) :
    (node test children guard slot).ownSlots = children.flatMap ownSlots ++ slot.toList := by
  rw [ownSlots, postorder, List.filterMap_append, forest_own_slots]
  cases slot <;> rfl

end Pattern

theorem last_carrier_append (slot : String) (entries others : List (List Nat × Pattern)) :
    lastCarrier? slot (entries ++ others)
      = (lastCarrier? slot others).or (lastCarrier? slot entries) := by
  rw [lastCarrier?, List.reverse_append, List.find?_append]
  rfl

theorem last_carrier_below (slot : String) (index : Nat) (entries : List (List Nat × Pattern)) :
    lastCarrier? slot (entries.map fun entry => (index :: entry.1, entry.2))
      = (lastCarrier? slot entries).map fun entry => (index :: entry.1, entry.2) := by
  rw [lastCarrier?, ← List.map_reverse, List.find?_map]
  rfl

theorem last_carrier_of_own (slot : String) (pattern : Pattern) (own : slot ∈ pattern.ownSlots) :
    ∃ entry, lastCarrier? slot pattern.postorder = some entry ∧ entry ∈ pattern.postorder
      ∧ entry.2.slot? = some slot := by
  obtain ⟨carrier, among, carries⟩ := List.mem_filterMap.mp own
  have found : (lastCarrier? slot pattern.postorder).isSome :=
    List.find?_isSome.mpr ⟨carrier, List.mem_reverse.mpr among, beq_iff_eq.mpr carries⟩
  obtain ⟨entry, last⟩ := Option.isSome_iff_exists.mp found
  refine ⟨entry, last, ?_, ?_⟩
  · exact List.mem_reverse.mp (List.mem_of_find?_eq_some last)
  · rw [lastCarrier?] at last
    simpa using List.find?_some last

end ScheduleShape
