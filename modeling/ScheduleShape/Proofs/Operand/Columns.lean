import ScheduleShape.Operand.Render

set_option autoImplicit false

namespace ScheduleShape

section

variable {α : Type} (size count : Nat) (column : Nat → List α)

theorem flat_map_range_length (each : ∀ position, position < size → (column position).length = count) :
    ((List.range size).flatMap column).length = size * count := by
  induction size with
  | zero => simp
  | succ size ih =>
      have before := ih fun position within => each position (Nat.lt_succ_of_lt within)
      rw [List.range_succ, List.flatMap_append, List.length_append, before, List.flatMap_singleton,
        each size (Nat.lt_succ_self size), Nat.succ_mul]

theorem flat_map_range_at (each : ∀ position, position < size → (column position).length = count)
    (position index : Nat) (within : position < size) (inside : index < count) :
    ((List.range size).flatMap column)[position * count + index]? = (column position)[index]? := by
  induction size with
  | zero => cases within
  | succ size ih =>
      have each' := fun other (early : other < size) => each other (Nat.lt_succ_of_lt early)
      have before := flat_map_range_length size count column each'
      rw [List.range_succ, List.flatMap_append, List.flatMap_singleton]
      by_cases early : position < size
      · have bound : position * count + index < size * count := by
          calc
            position * count + index < position * count + count := Nat.add_lt_add_left inside _
            _ = (position + 1) * count := (Nat.succ_mul position count).symm
            _ ≤ size * count := Nat.mul_le_mul_right count early
        rw [List.getElem?_append_left (by rw [before]; exact bound)]
        exact ih each' early
      · have last : position = size := by omega
        rw [last, List.getElem?_append_right (by rw [before]; exact Nat.le_add_right _ _), before,
          Nat.add_sub_cancel_left]

end

namespace AccessMatcher

section

variable (size : Nat) (table : List (List String)) (full : ∀ row ∈ table, row.length = size)
  (position : Nat) (within : position < size)

include full within

theorem column_entries :
    (table.filterMap fun row => row[position]?).map some = table.map fun row => row[position]? := by
  induction table with
  | nil => rfl
  | cons row table ih =>
      have filled : position < row.length := by rw [full row List.mem_cons_self]; exact within
      have rest := ih fun later among => full later (List.mem_cons_of_mem row among)
      have first : row[position]? = some row[position] := List.getElem?_eq_getElem filled
      simp only [List.filterMap_cons, List.map_cons, first, rest]

theorem column_length : (table.filterMap fun row => row[position]?).length = table.length := by
  simpa using congrArg List.length (column_entries size table full position within)

theorem column_entry (index : Nat) (row : List String) (found : table[index]? = some row) :
    (table.filterMap fun row => row[position]?)[index]? = row[position]? := by
  have entries := congrArg (·[index]?) (column_entries size table full position within)
  simp only [List.getElem?_map, found, Option.map_some] at entries
  obtain ⟨text, here, same⟩ := Option.map_eq_some_iff.mp entries
  rw [here, same]

end

theorem column_lines_at (matcher : AccessMatcher) (table : List (List String))
    (full : ∀ row ∈ table, row.length = matcher.size) (position index : Nat) (within : position < matcher.size)
    (row : List String) (found : table[index]? = some row) :
    (matcher.columnLines table)[position * table.length + index]? = row[position]? := by
  rw [columnLines, flat_map_range_at matcher.size table.length _
    (fun position within => column_length matcher.size table full position within) position index within
    (List.getElem?_eq_some_iff.mp found).1]
  exact column_entry matcher.size table full position within index row found

theorem tables_told (matcher : AccessMatcher) (table other : List (List String))
    (full : ∀ row ∈ table, row.length = matcher.size) (otherFull : ∀ row ∈ other, row.length = matcher.size)
    (same : matcher.columnLines table = matcher.columnLines other) : table = other := by
  have some : 0 < matcher.size := List.length_pos_iff.mpr matcher.nonempty
  have counted : table.length = other.length := by
    have lengths := congrArg List.length same
    rw [columnLines, columnLines,
      flat_map_range_length _ table.length _ fun position => column_length matcher.size table full position,
      flat_map_range_length _ other.length _ fun position => column_length matcher.size other otherFull position]
      at lengths
    exact Nat.eq_of_mul_eq_mul_left some lengths
  apply List.ext_getElem counted
  intro index here there
  have found : table[index]? = .some table[index] := List.getElem?_eq_getElem here
  have otherFound : other[index]? = .some other[index] := List.getElem?_eq_getElem there
  have length := full _ (List.getElem_mem here)
  have otherLength := otherFull _ (List.getElem_mem there)
  apply List.ext_getElem (length.trans otherLength.symm)
  intro position standing otherStanding
  have within : position < matcher.size := by rw [← length]; exact standing
  have entry := column_lines_at matcher table full position index within _ found
  have otherEntry := column_lines_at matcher other otherFull position index within _ otherFound
  rw [same, counted, otherEntry, List.getElem?_eq_getElem standing, List.getElem?_eq_getElem otherStanding]
    at entry
  exact (Option.some.inj entry).symm

end AccessMatcher

end ScheduleShape
