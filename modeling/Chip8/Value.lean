import Chip8.Text.Quoted
import Chip8.Decimal.Shortest

/-!
# Untyped values

Key indices and programs may be handed over as values of any kind, and what is refused is shown in
the message. A value counts as true unless it is empty, zero or nothing.
-/

namespace Chip8

/-- A value whose kind is known only when it is looked at; objects keep the order of their fields.
-/
inductive Value where
  | null
  | bool (b : Bool)
  | int (n : Int)
  | float (x : Float)
  | text (t : Text)
  | list (items : List Value)
  | object (fields : List (Text × Value))

namespace Value

def kindName : Value → String
  | null => "NoneType"
  | bool _ => "bool"
  | int _ => "int"
  | float _ => "float"
  | text _ => "str"
  | list _ => "list"
  | object _ => "dict"

/-- The integer that a value stands for: integers, and the two truth values as one and zero. -/
def toInt? : Value → Option Int
  | int n => some n
  | bool b => some (if b then 1 else 0)
  | _ => none

/-- The integer that a value equals: those above, and floating-point numbers without a fraction. -/
def wholeNumber? : Value → Option Int
  | float x =>
    match Double.ofFloat x with
    | .finite negative m e =>
      let r := Double.ratio m e
      if r.1 % r.2 = 0 then
        some (if negative then -((r.1 / r.2 : Nat) : Int) else ((r.1 / r.2 : Nat) : Int))
      else none
    | _ => none
  | v => v.toInt?

def truthy : Value → Bool
  | null => false
  | bool b => b
  | int n => n != 0
  | float x => x != 0.0
  | text t => !t.codes.isEmpty
  | list items => !items.isEmpty
  | object fields => !fields.isEmpty

def boolText (b : Bool) : String := if b then "True" else "False"

mutual

def literal : Value → String
  | null => "None"
  | bool b => boolText b
  | int n => toString n
  | float x => Decimal.shortestText x
  | text t => t.quoted
  | list items => "[" ++ ", ".intercalate (literals items) ++ "]"
  | object fields => "\x7b" ++ ", ".intercalate (fieldLiterals fields) ++ "\x7d"

def literals : List Value → List String
  | [] => []
  | v :: rest => literal v :: literals rest

def fieldLiterals : List (Text × Value) → List String
  | [] => []
  | (name, v) :: rest => (name.quoted ++ ": " ++ literal v) :: fieldLiterals rest

end

/-- How a value is shown on its own: a text stands as it is. -/
def shown : Value → Text
  | text t => t
  | v => v.literal

end Value

end Chip8
