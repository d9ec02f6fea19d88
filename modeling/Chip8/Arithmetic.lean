import Chip8.Extent
import Chip8.Operand

/-!
# Sums and products of values

Numbers are added and multiplied as quantities. A text or a list times an integer is repeated, and
one of its own kind can be put behind it; nothing else has sums and products. Copies are counted and
not made, for an integer can be read of a repeated text without looking at all of them.
-/

namespace Chip8

inductive ArithmeticError where
  | operand (e : OperandError)
  | noDouble
  | hugeCount
  | tooLong
  | noMemory
  deriving DecidableEq, Repr

def ArithmeticError.message : ArithmeticError → String
  | operand e => e.message
  | noDouble => "int too large to convert to float"
  | hugeCount => "cannot fit 'int' into an index-sized integer"
  | tooLong => "repeated string is too long"
  | noMemory => ""

/-- A product: a number, or a text or a list so many times. -/
inductive Product where
  | number (q : Quantity)
  | text (t : Text) (copies : Nat)
  | list (items : List Value) (copies : Nat)

namespace Text

/-- Bytes in a character of a text: as many as its highest code point needs. -/
def characterSize (t : Text) : Nat :=
  if t.codes.all (· < 0x100) then 1 else if t.codes.all (· < 0x10000) then 2 else 4

def copies (t : Text) (n : Nat) : Text := ⟨(List.replicate n t.codes).flatten⟩

/-- A text that is no numeral by itself decides with so many copies what any more of them are, and
fills with them what a message shows. -/
def enoughCopies : Nat := 402

/-- The integer that a text writes when it is repeated. The digits of a numeral are counted, copies
of anything else are read. -/
def integerOfCopies (t : Text) (n : Nat) : Except IntegerError Int :=
  match digits? t.display.toList with
  | some ds =>
    if maxDigits < n * ds.length then .error (.tooManyDigits (n * ds.length))
    else (Value.text (t.copies n)).integer
  | none => (Value.text (t.copies (min n enoughCopies))).integer

end Text

namespace Product

def ofText (t : Text) (n : Int) : Except ArithmeticError Product :=
  if ¬Extent.fits n then .error .hugeCount
  else if 0x8000000000000000 ≤ t.codes.length * n.toNat then .error .tooLong
  else if Extent.memoryLimit < t.characterSize * (t.codes.length * n.toNat) then .error .noMemory
  else .ok (.text t n.toNat)

def ofList (items : List Value) (n : Int) : Except ArithmeticError Product :=
  if ¬Extent.fits n then .error .hugeCount
  else if Extent.memoryLimit < 8 * (items.length * n.toNat) then .error .noMemory
  else .ok (.list items n.toNat)

def integer : Product → Except IntegerError Int
  | number q => (Value.ofQuantity q).integer
  | text t n => t.integerOfCopies n
  | list _ _ => .error (.noNumber (Value.list []).kindName)

def plus (p : Product) (v : Value) : Except ArithmeticError Value :=
  match p, v with
  | text t n, .text u => .ok (.text (t.copies n ++ u))
  | text _ _, v => .error (.operand (.concatenation "str" v.kindName))
  | list items n, .list more => .ok (.list ((List.replicate n items).flatten ++ more))
  | list _ _, v => .error (.operand (.concatenation "list" v.kindName))
  | number q, v =>
    match v.quantity? with
    | none => .error (.operand (.unsupported "+" (Value.ofQuantity q).kindName v.kindName))
    | some r =>
      match q.add? r with
      | some s => .ok (.ofQuantity s)
      | none => .error .noDouble

end Product

namespace Value

def repeated (v : Value) (times : Value) : Except ArithmeticError Product :=
  match times.toInt?, v with
  | some n, text t => Product.ofText t n
  | some n, list items => Product.ofList items n
  | _, _ => .error (.operand (.repetition times.kindName))

def times (a b : Value) : Except ArithmeticError Product :=
  match a.quantity?, b.quantity? with
  | some p, some q =>
    match p.mul? q with
    | some r => .ok (.number r)
    | none => .error .noDouble
  | _, _ =>
    if a.isSequence then a.repeated b
    else if b.isSequence then b.repeated a
    else .error (.operand (.unsupported "*" a.kindName b.kindName))

end Value

end Chip8
