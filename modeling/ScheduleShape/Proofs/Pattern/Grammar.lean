import ScheduleShape.Affine.Boxes
import ScheduleShape.Pattern.Grammar

set_option autoImplicit false

namespace ScheduleShape

section

variable [Affine]

section

variable (word : String) (parts : List Pattern) (nodes : ∀ part ∈ parts, part.IsNode)

include nodes

theorem child_patterns_of_nodes : childPatterns word (parts.map .pattern) = .ok parts := by
  induction parts with
  | nil => rfl
  | cons part parts ih =>
      have others := ih fun other among => nodes other (List.mem_cons_of_mem part among)
      cases part with
      | node test children guard slot =>
          rw [List.map_cons, childPatterns, others]
          rfl
      | value held => exact absurd (nodes _ List.mem_cons_self) id

theorem child_patterns_foreign (argument : Argument) (rest : List Argument) (odd : ¬ argument.IsPart) :
    childPatterns word (parts.map .pattern ++ argument :: rest)
      = .error (.notChildPattern word argument.typeName) := by
  induction parts with
  | nil =>
      cases argument with
      | pattern pattern =>
          cases pattern with
          | node test children guard slot => exact absurd trivial odd
          | value held => rfl
      | guard held => rfl
      | slot name => rfl
  | cons part parts ih =>
      have others := ih fun other among => nodes other (List.mem_cons_of_mem part among)
      cases part with
      | node test children guard slot =>
          rw [List.map_cons, List.cons_append, childPatterns, others]
          rfl
      | value held => exact absurd (nodes _ List.mem_cons_self) id

end

theorem parts_or_foreign (arguments : List Argument) :
    ∃ parts : List Pattern, (∀ part ∈ parts, part.IsNode) ∧ (arguments = parts.map .pattern ∨
      ∃ argument rest, ¬ argument.IsPart ∧ arguments = parts.map .pattern ++ argument :: rest) := by
  induction arguments with
  | nil => exact ⟨[], fun _ among => (nomatch among), .inl rfl⟩
  | cons argument arguments ih =>
      by_cases part : argument.IsPart
      · obtain ⟨parts, nodes, laid⟩ := ih
        cases argument with
        | pattern pattern =>
            refine ⟨pattern :: parts, List.forall_mem_cons.mpr ⟨part, nodes⟩, ?_⟩
            rcases laid with rfl | ⟨odd, rest, foreign, rfl⟩
            · exact .inl rfl
            · exact .inr ⟨odd, rest, foreign, rfl⟩
        | guard held => exact absurd part id
        | slot name => exact absurd part id
      · exact ⟨[], fun _ among => (nomatch among), .inr ⟨argument, arguments, part, rfl⟩⟩

theorem lead_heads (arguments : List Argument) :
    ∃ (lead : Lead) (rest : List Argument), arguments = lead.arguments ++ rest ∧ lead.Heads rest := by
  cases arguments with
  | nil => exact ⟨.nothing, [], rfl, trivial⟩
  | cons argument rest =>
      cases argument with
      | pattern pattern => exact ⟨.nothing, .pattern pattern :: rest, rfl, trivial⟩
      | guard held => exact ⟨.guard held, rest, rfl, trivial⟩
      | slot name => exact ⟨.slot name, rest, rfl, trivial⟩

theorem heads_parts (lead : Lead) (parts : List Pattern) : lead.Heads (parts.map .pattern) := by
  cases lead with
  | nothing => cases parts <;> trivial
  | guard held => trivial
  | slot name => trivial

theorem split_heads (lead : Lead) (rest : List Argument) (heads : lead.Heads rest) :
    Leading.split (lead.arguments ++ rest) = ⟨lead.guard?, lead.slot?, rest⟩ := by
  cases lead with
  | guard held => rfl
  | slot name => rfl
  | nothing =>
      cases rest with
      | nil => rfl
      | cons argument rest =>
          cases argument with
          | pattern pattern => rfl
          | guard held => exact absurd heads id
          | slot name => exact absurd heads id

namespace Pattern

section

variable (builder : Builder) (taking : builder ≠ .leaf) (lead : Lead) (rest : List Argument)
  (heads : lead.Heads rest)

include taking heads

theorem build_after_lead :
    build builder (lead.arguments ++ rest) = (do
      let parts ← childPatterns builder.word rest
      if builder.Takes lead parts.length then pure (.node builder.test parts lead.guard? lead.slot?)
      else .error (builder.countFault parts.length)) := by
  cases builder with
  | leaf => exact absurd rfl taking
  | single kind =>
      rw [build, split_heads lead rest heads]
      rfl
  | many kind =>
      rw [build, split_heads lead rest heads]
      dsimp only
      congr 1
      funext parts
      cases parts <;> cases lead <;> rfl
  | any =>
      rw [build, split_heads lead rest heads]
      dsimp only
      congr 1
      funext parts
      cases parts <;> rfl

end

section

variable (builder : Builder) (arguments : List Argument)

theorem build_of_accepts (lead : Lead) (parts : List Pattern) (accepted : builder.Accepts arguments lead parts) :
    build builder arguments = .ok (.node builder.test parts lead.guard? lead.slot?) := by
  obtain ⟨rfl, nodes, taken⟩ := accepted
  by_cases bare : builder = .leaf
  · subst bare
    have counted : lead.arguments.length + parts.length = 0 := taken
    cases parts with
    | cons part parts => cases counted
    | nil => cases lead with
      | nothing => rfl
      | guard held => cases counted
      | slot name => cases counted
  · rw [build_after_lead builder bare lead _ (heads_parts lead parts), child_patterns_of_nodes _ parts nodes]
    exact if_pos taken

theorem build_of_refuses (fault : Fault) (refused : builder.Refuses arguments fault) :
    build builder arguments = .error fault := by
  cases refused with
  | foreign lead parts argument rest taking heads nodes odd =>
      rw [build_after_lead builder taking lead _ heads, child_patterns_foreign _ parts nodes argument rest odd]
      rfl
  | count lead parts taking nodes untaken =>
      rw [build_after_lead builder taking lead _ (heads_parts lead parts), child_patterns_of_nodes _ parts nodes]
      exact if_neg untaken
  | given _ bare some =>
      subst bare
      cases arguments with
      | nil => exact absurd rfl some
      | cons argument arguments => rfl

theorem accepts_or_refuses :
    (∃ lead parts, builder.Accepts arguments lead parts) ∨ ∃ fault, builder.Refuses arguments fault := by
  by_cases bare : builder = .leaf
  · subst bare
    by_cases none : arguments = []
    · exact .inl ⟨.nothing, [], none, fun _ among => (nomatch among), rfl⟩
    · exact .inr ⟨_, .given arguments rfl none⟩
  · obtain ⟨lead, rest, rfl, heads⟩ := lead_heads arguments
    obtain ⟨parts, nodes, laid⟩ := parts_or_foreign rest
    rcases laid with rfl | ⟨argument, others, odd, rfl⟩
    · by_cases taken : builder.Takes lead parts.length
      · exact .inl ⟨lead, parts, rfl, nodes, taken⟩
      · exact .inr ⟨_, .count lead parts bare nodes taken⟩
    · exact .inr ⟨_, .foreign lead parts argument others bare heads nodes odd⟩

theorem build_ok_iff (pattern : Pattern) : build builder arguments = .ok pattern ↔
    ∃ lead parts, builder.Accepts arguments lead parts
      ∧ pattern = .node builder.test parts lead.guard? lead.slot? := by
  constructor
  · intro built
    rcases accepts_or_refuses builder arguments with ⟨lead, parts, accepted⟩ | ⟨fault, refused⟩
    · cases (build_of_accepts builder arguments lead parts accepted).symm.trans built
      exact ⟨lead, parts, accepted, rfl⟩
    · cases (build_of_refuses builder arguments fault refused).symm.trans built
  · rintro ⟨lead, parts, accepted, rfl⟩
    exact build_of_accepts builder arguments lead parts accepted

theorem build_error_iff (fault : Fault) :
    build builder arguments = .error fault ↔ builder.Refuses arguments fault := by
  constructor
  · intro failed
    rcases accepts_or_refuses builder arguments with ⟨lead, parts, accepted⟩ | ⟨other, refused⟩
    · cases (build_of_accepts builder arguments lead parts accepted).symm.trans failed
    · cases (build_of_refuses builder arguments other refused).symm.trans failed
      exact refused
  · exact build_of_refuses builder arguments fault

end

theorem refused_construction (builder : Builder) (arguments : List Argument) (fault : Fault)
    (taking : builder ≠ .leaf) (refused : builder.Refuses arguments fault) : fault.isConstruction = true := by
  cases refused with
  | foreign => rfl
  | given _ bare => exact absurd bare taking
  | count => cases builder with
    | leaf => exact absurd rfl taking
    | single kind => rfl
    | many kind => rfl
    | any => rfl

theorem well_built_of_accepts (builder : Builder) (arguments : List Argument) (lead : Lead)
    (parts : List Pattern) (accepted : builder.Accepts arguments lead parts) :
    (node builder.test parts lead.guard? lead.slot?).WellBuilt := by
  have taken := accepted.taken
  refine ⟨?_, ?_, ?_⟩
  · cases lead with
    | nothing => exact .inl rfl
    | guard held => exact .inr rfl
    | slot name => exact .inl rfl
  · intro kind same
    cases builder with
    | single held => exact taken
    | many held => cases same
    | leaf => cases same
    | any => cases same
  · intro childless
    subst childless
    cases builder with
    | single kind => cases taken
    | many kind =>
        have guarded : lead.guard?.isSome := taken.resolve_left (Nat.lt_irrefl 0)
        exact .inr (.inr ⟨kind, rfl, guarded⟩)
    | leaf => exact .inl rfl
    | any => exact .inr (.inl rfl)

-- Induction on the nesting: a node below the top is in a pattern that was built before.
theorem built_throughout (pattern : Pattern) (built : pattern.Built) (address : List Nat) (part : Pattern)
    (there : pattern.partAt address = some part) : part.WellBuilt := by
  induction built generalizing address with
  | build builder arguments pattern given made ih =>
      obtain ⟨lead, parts, accepted, rfl⟩ := (build_ok_iff builder arguments pattern).mp made
      cases address with
      | nil =>
          cases there
          exact well_built_of_accepts builder arguments lead parts accepted
      | cons index rest =>
          obtain ⟨child, found, below⟩ := Option.bind_eq_some_iff.mp there
          have among : Argument.pattern child ∈ arguments := by
            rw [accepted.inTurn]
            exact List.mem_append_right _ (List.mem_map_of_mem (List.mem_of_getElem? found))
          exact ih child among rest below

/-- A builder makes a pattern just of the arguments that its grammar generates: at most one slot or guard in
front, and then as many patterns as it takes, which become the children. It refuses all others with a fault
that names what is wrong with them. So in whatever comes of nesting builders no node has both a guard and a
slot, the kinds with one child have one, and only leaves, wildcards and guarded groups have none. -/
theorem builders_keep_grammar :
    (∀ builder arguments pattern, build builder arguments = .ok pattern ↔
      ∃ lead parts, builder.Accepts arguments lead parts
        ∧ pattern = .node builder.test parts lead.guard? lead.slot?)
    ∧ (∀ builder arguments fault, build builder arguments = .error fault ↔ builder.Refuses arguments fault)
    ∧ (∀ builder arguments, builder ≠ .leaf → (∀ lead parts, ¬ builder.Accepts arguments lead parts) →
      ∃ fault, build builder arguments = .error fault ∧ fault.isConstruction = true)
    ∧ ∀ pattern : Pattern, pattern.Built → ∀ address part, pattern.partAt address = some part → part.WellBuilt := by
  refine ⟨build_ok_iff, build_error_iff, ?_, built_throughout⟩
  intro builder arguments taking unaccepted
  rcases accepts_or_refuses builder arguments with ⟨lead, parts, accepted⟩ | ⟨fault, refused⟩
  · exact absurd accepted (unaccepted lead parts)
  · exact ⟨fault, build_of_refuses builder arguments fault refused,
      refused_construction builder arguments fault taking refused⟩

end Pattern

end

namespace Pattern

def openSequence : Pattern :=
  node (.exactly (.group .sequence)) [] (some (.constant (.bool true))) none

def capturedDomain : Pattern :=
  node (.exactly (.carrier .domain)) [openSequence] none (some "top")

theorem captured_domain_built : capturedDomain.Built := by
  refine .build (.single .domain) [.slot "top", .pattern openSequence] capturedDomain ?_ rfl
  intro part among
  have same : part = openSequence := by simpa using among
  subst same
  exact .build (.many .sequence) [.guard (.constant (.bool true))] openSequence (by simp) rfl

theorem builders_keep_grammar_captured_domain :
    capturedDomain.Built ∧ capturedDomain.WellBuilt ∧ openSequence.WellBuilt
      ∧ ∃ fault, build (.many .sequence) [.slot "top"] = .error fault ∧ fault.isConstruction = true := by
  obtain ⟨accepting, _, refusing, throughout⟩ := builders_keep_grammar
  have built := captured_domain_built
  refine ⟨built, throughout capturedDomain built [] capturedDomain rfl,
    throughout capturedDomain built [0] openSequence rfl, refusing _ _ (by decide) ?_⟩
  intro lead parts accepted
  cases (accepting (.many .sequence) [.slot "top"] _).mpr ⟨lead, parts, accepted, rfl⟩

end Pattern

end ScheduleShape
