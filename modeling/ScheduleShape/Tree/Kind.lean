set_option autoImplicit false

namespace ScheduleShape

inductive CarrierKind where
  | band
  | context
  | domain
  | extension
  | filter
  | guard
  | mark
deriving DecidableEq, Repr

inductive GroupKind where
  | sequence
  | set
deriving DecidableEq, Repr

inductive Kind where
  | carrier (kind : CarrierKind)
  | group (kind : GroupKind)
  | leaf
deriving DecidableEq, Repr

namespace Kind

def name : Kind → String
  | carrier .band => "Band"
  | carrier .context => "Context"
  | carrier .domain => "Domain"
  | carrier .extension => "Extension"
  | carrier .filter => "Filter"
  | carrier .guard => "Guard"
  | carrier .mark => "Mark"
  | group .sequence => "Sequence"
  | group .set => "Set"
  | leaf => "Leaf"

def word : Kind → String
  | carrier .band => "band"
  | carrier .context => "context"
  | carrier .domain => "domain"
  | carrier .extension => "extension"
  | carrier .filter => "filter"
  | carrier .guard => "guard"
  | carrier .mark => "mark"
  | group .sequence => "sequence"
  | group .set => "set"
  | leaf => "leaf"

def all : List Kind :=
  [carrier .band, carrier .context, carrier .domain, carrier .extension, carrier .filter,
    carrier .guard, carrier .mark, leaf, group .sequence, group .set]

def ofName? (name : String) : Option Kind :=
  all.find? fun kind => kind.name == name

def ofWord? (word : String) : Option Kind :=
  all.find? fun kind => kind.word == word

theorem mem_all (kind : Kind) : kind ∈ all := by
  cases kind with
  | carrier kind => cases kind <;> decide
  | group kind => cases kind <;> decide
  | leaf => decide

@[simp]
theorem of_name_name (kind : Kind) : ofName? kind.name = some kind := by
  cases kind with
  | carrier kind => cases kind <;> decide
  | group kind => cases kind <;> decide
  | leaf => decide

@[simp]
theorem of_word_word (kind : Kind) : ofWord? kind.word = some kind := by
  cases kind with
  | carrier kind => cases kind <;> decide
  | group kind => cases kind <;> decide
  | leaf => decide

end Kind

inductive KindTest where
  | any
  | exactly (kind : Kind)
deriving DecidableEq, Repr

namespace KindTest

def name : KindTest → String
  | any => "Any"
  | exactly kind => kind.name

def word : KindTest → String
  | any => "any"
  | exactly kind => kind.word

def ofName? (name : String) : Option KindTest :=
  if name = "Any" then some any else (Kind.ofName? name).map exactly

end KindTest

end ScheduleShape
