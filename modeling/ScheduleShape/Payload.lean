import ScheduleShape.Affine.Library
import ScheduleShape.Value.Elements

set_option autoImplicit false

namespace ScheduleShape

variable [Affine]

inductive Payload where
  | value (held : Value)
  | object (held : Object)

instance : Inhabited Payload := ⟨.value .null⟩

namespace Payload

def typeName : Payload → String
  | value held => held.typeName
  | object held => Affine.typeName held

def className : Payload → String
  | value held => held.typeName
  | object held => affineClassName (Affine.typeName held)

def display : Payload → String
  | value held => held.display
  | object held => Affine.objectText held

def isNull : Payload → Bool
  | value held => held.isNull
  | object _ => false

def size : Payload → Except Fault Nat
  | value held => held.size
  | object held => Affine.size held

def element (position : Int) : Payload → Except Fault Payload
  | value held => (held.element position).map value
  | object held => (Affine.element position held).map object

-- Wherever an object is on either side, the library decides whether there is an answer.
def same : Payload → Payload → Except Fault Bool
  | value held, value other => .ok (held.same other)
  | object held, object other => Affine.isEqual held other
  | object held, value other => Affine.isEqualToValue held other
  | value held, object other => Affine.isEqualToValue other held

end Payload

end ScheduleShape
