import Chip8.Decimal.Double

/-!
# Quantities

A frequency, a length of time or a part of a colour is an integer or a floating-point number.
Integers are exact; together with a floating-point number, or where one is wanted, they are rounded,
and fail if they are too large for that.
-/

namespace Chip8

inductive Quantity where
  | whole (n : Int)
  | real (x : Float)

namespace Quantity

def toDouble? : Quantity → Option Float
  | whole n => Double.ofInt? n
  | real x => some x

def add? : Quantity → Quantity → Option Quantity
  | whole a, whole b => some (whole (a + b))
  | p, q =>
    match p.toDouble?, q.toDouble? with
    | some x, some y => some (real (x + y))
    | _, _ => none

def mul? : Quantity → Quantity → Option Quantity
  | whole a, whole b => some (whole (a * b))
  | p, q =>
    match p.toDouble?, q.toDouble? with
    | some x, some y => some (real (x * y))
    | _, _ => none

def wholePart : Quantity → Int
  | whole n => n
  | real x => ((Double.ofFloat x).truncate.toOption).getD 0

/-- The whole part of a double that fits in thirty-two bits with a sign; zero for any other. -/
def narrow (x : Float) : Int :=
  match (Double.ofFloat x).truncate with
  | .ok n => if -0x80000000 ≤ n ∧ n < 0x80000000 then n else 0
  | .error _ => 0

end Quantity

end Chip8
