import ScheduleShape.Access.Matcher
import ScheduleShape.Outcome

set_option autoImplicit false

namespace ScheduleShape

variable [Affine]

inductive Event where
  | notFunction (access : Access)
  | labelsDisagree (labels : List Label) (access : Access)
  | aritiesDiffer (first second : Int)
  | agreement (reader writer : AccessMatcher) (labels : List Label)
  | noAgreement

namespace Event

inductive Level where
  | debug
  | info
deriving DecidableEq, Repr

inductive Origin where
  | accesses
  | constraints
  | finder
deriving DecidableEq, Repr

def level : Event → Level
  | agreement .. => .info
  | _ => .debug

def origin : Event → Origin
  | notFunction _ => .accesses
  | labelsDisagree .. => .constraints
  | aritiesDiffer .. => .constraints
  | agreement .. => .finder
  | noAgreement => .finder

def labelTuple (labels : List Label) : String :=
  Text.parenthesized (labels.map fun label => Text.quoted label.text)

def message : Event → String
  | notFunction access => "skipping access that is not single-valued: " ++ Affine.accessText access
  | labelsDisagree labels access =>
      "repeated labels " ++ labelTuple labels ++ " disagree on " ++ Affine.accessText access
  | aritiesDiffer first second =>
      "cannot compare lists of arity " ++ Value.decimal first ++ " and " ++ Value.decimal second
  | agreement reader writer labels =>
      reader.describe ++ " and " ++ writer.describe ++ " agree on "
        ++ ", ".intercalate (labels.map Label.text)
  | noAgreement => "no consistent read/write matcher pair"

end Event

-- A computation that keeps what it has told when it stops with a fault.
abbrev Told := EStateM Fault (List Event)

namespace Told

def tell (event : Event) : Told Unit := modify (· ++ [event])

end Told

end ScheduleShape
