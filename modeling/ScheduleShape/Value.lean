import ScheduleShape.Text.Quoted

set_option autoImplicit false

namespace ScheduleShape

inductive Value where
  | null
  | bool (flag : Bool)
  | int (number : Int)
  | text (content : String)
  | list (items : List Value)
  | dict (entries : List (String × Value))
deriving Inhabited

namespace Value

def typeName : Value → String
  | null => "NoneType"
  | bool _ => "bool"
  | int _ => "int"
  | text _ => "str"
  | list _ => "list"
  | dict _ => "dict"

def truthy : Value → Bool
  | null => false
  | bool flag => flag
  | int number => number != 0
  | text content => content != ""
  | list items => !items.isEmpty
  | dict entries => !entries.isEmpty

def number? : Value → Option Int
  | bool flag => some flag.toNat
  | int number => some number
  | _ => none

mutual

-- Equality of values, by which `true` is one and `false` is zero.
def same : Value → Value → Bool
  | null, other => match other with
    | null => true
    | _ => false
  | bool flag, other => other.number? == some (flag.toNat : Int)
  | int number, other => other.number? == some number
  | text content, other => match other with
    | text otherContent => content == otherContent
    | _ => false
  | list items, other => match other with
    | list otherItems => sameItems items otherItems
    | _ => false
  | dict entries, other => match other with
    | dict otherEntries => sameEntries entries otherEntries
    | _ => false

def sameItems : List Value → List Value → Bool
  | [], [] => true
  | item :: items, other :: others => same item other && sameItems items others
  | _, _ => false

def sameEntries : List (String × Value) → List (String × Value) → Bool
  | [], [] => true
  | (key, item) :: entries, (otherKey, other) :: others =>
      key == otherKey && same item other && sameEntries entries others
  | _, _ => false

end

def decimal (number : Int) : String :=
  match number with
  | .ofNat n => String.ofList (Nat.toDigits 10 n)
  | .negSucc n => "-" ++ String.ofList (Nat.toDigits 10 (n + 1))

mutual

def literal : Value → String
  | null => "None"
  | bool true => "True"
  | bool false => "False"
  | int number => decimal number
  | text content => Text.quoted content
  | list items => Text.bracketed (literals items)
  | dict entries => "\x7b" ++ ", ".intercalate (entryLiterals entries) ++ "\x7d"

def literals : List Value → List String
  | [] => []
  | item :: items => literal item :: literals items

def entryLiterals : List (String × Value) → List String
  | [] => []
  | (key, item) :: entries => (Text.quoted key ++ ": " ++ literal item) :: entryLiterals entries

end

def display : Value → String
  | text content => content
  | other => other.literal

def isNull : Value → Bool
  | null => true
  | _ => false

end Value

end ScheduleShape
