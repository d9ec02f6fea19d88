import Chip8.Decimal.Quantity
import Chip8.Text.Numeral
import Chip8.Value

/-!
# Operands

A host may hand over a value of any kind where a number is wanted. Integers and truth values are
numbers everywhere; floating-point numbers can be added and compared, but have no bits and count
nothing; all else is refused by the first operation that meets it. Where an integer is made of a
value, floating-point numbers lose their fraction and texts are read.
-/

namespace Chip8

/-- Why an operation refuses a value; kinds are given by their names. -/
inductive OperandError where
  | unsupported (operator left right : String)
  /-- Nothing but its own kind can be put behind such a value. -/
  | concatenation (kind other : String)
  | notComparable (operator left right : String)
  | notInteger (kind : String)
  | notIterable (kind : String)
  /-- The value selects no byte. -/
  | badIndex (kind : String)
  | repetition (kind : String)
  | unary (operator kind : String)
  deriving DecidableEq, Repr

def OperandError.message : OperandError → String
  | unsupported operator left right =>
    "unsupported operand type(s) for " ++ operator ++ ": '" ++ left ++ "' and '" ++ right ++ "'"
  | concatenation kind other =>
    "can only concatenate " ++ kind ++ " (not \"" ++ other ++ "\") to " ++ kind
  | notComparable operator left right =>
    "'" ++ operator ++ "' not supported between instances of '" ++ left ++ "' and '" ++ right ++ "'"
  | notInteger kind => "'" ++ kind ++ "' object cannot be interpreted as an integer"
  | notIterable kind => "'" ++ kind ++ "' object is not iterable"
  | badIndex kind => "bytearray indices must be integers or slices, not " ++ kind
  | repetition kind => "can't multiply sequence by non-int of type '" ++ kind ++ "'"
  | unary operator kind => "bad operand type for " ++ operator ++ ": '" ++ kind ++ "'"

inductive IntegerError where
  | noWhole (e : Double.NoWhole)
  | noNumeral (t : Text)
  | tooManyDigits (count : Nat)
  | noNumber (kind : String)
  deriving DecidableEq, Repr

def IntegerError.message : IntegerError → String
  | noWhole e => e.message
  | noNumeral t =>
    "invalid literal for int() with base 10: " ++ String.ofList (t.quoted.toList.take 200)
  | tooManyDigits count =>
    "Exceeds the limit (" ++ toString Text.maxDigits
      ++ " digits) for integer string conversion: value has " ++ toString count
      ++ " digits; use sys.set_int_max_str_digits() to increase the limit"
  | noNumber kind =>
    "int() argument must be a string, a bytes-like object or a real number, not '" ++ kind ++ "'"

namespace Value

def quantity? : Value → Option Quantity
  | float x => some (.real x)
  | v => v.toInt?.map .whole

def ofQuantity : Quantity → Value
  | .whole n => int n
  | .real x => float x

def bits (operator : String) (v : Value) : Except OperandError Int :=
  match v.toInt? with
  | some n => .ok n
  | none => .error (.unsupported operator v.kindName "int")

def count (v : Value) : Except OperandError Int :=
  match v.toInt? with
  | some n => .ok n
  | none => .error (.notInteger v.kindName)

def plus (v : Value) (n : Int) : Except OperandError Value :=
  match v with
  | float x => .ok (float (x + Float.ofInt n))
  | text _ => .error (.concatenation v.kindName "int")
  | list _ => .error (.concatenation v.kindName "int")
  | _ =>
    match v.toInt? with
    | some m => .ok (int (m + n))
    | none => .error (.unsupported "+" v.kindName "int")

/-- Whether a value lies between zero and a limit, which is excluded. -/
def within (limit : Nat) (v : Value) : Except OperandError Bool :=
  match v with
  | float x => .ok (0.0 ≤ x && x < Float.ofNat limit)
  | _ =>
    match v.toInt? with
    | some n => .ok (0 ≤ n && n < limit)
    | none => .error (.notComparable "<=" "int" v.kindName)

def integer : Value → Except IntegerError Int
  | float x =>
    match (Double.ofFloat x).truncate with
    | .ok n => .ok n
    | .error e => .error (.noWhole e)
  | text t =>
    match t.integer with
    | .ok n => .ok n
    | .error .malformed => .error (.noNumeral t)
    | .error (.tooManyDigits count) => .error (.tooManyDigits count)
  | v =>
    match v.toInt? with
    | some n => .ok n
    | none => .error (.noNumber v.kindName)

def isSequence : Value → Bool
  | text _ => true
  | list _ => true
  | _ => false

/-- The items of a value: those of a list, the characters of a text, the names of an object. -/
def items : Value → Except OperandError (List Value)
  | list vs => .ok vs
  | text t => .ok (t.codes.map fun n => text ⟨[n]⟩)
  | object fields => .ok (fields.map fun f => text f.1)
  | v => .error (.notIterable v.kindName)

end Value

end Chip8
