/-!
# Floating-point numbers as integers times powers of two

A double is zero or more whole units of a power of two, with a sign, or it is infinite, or it is no
number. The exact parts let its decimal text, its floor and its truncation be computed in integers.
-/

namespace Chip8

/-- The exact value of a double; a finite one is `± mantissa * 2 ^ exponent`. -/
inductive Double where
  | finite (negative : Bool) (mantissa : Nat) (exponent : Int)
  | infinite (negative : Bool)
  | notANumber
  deriving DecidableEq, Repr

namespace Double

/-- The parts of sixty-four bits: sign, eleven bits of exponent, fifty-two bits of fraction. -/
def ofBits (bits : UInt64) : Double :=
  let n := bits.toNat
  let negative := decide (n >>> 63 = 1)
  let power : Nat := n >>> 52 % 2048
  let fraction : Nat := n % 1 <<< 52
  if power = 2047 then
    if fraction = 0 then infinite negative else notANumber
  else if power = 0 then finite negative fraction (-1074)
  else finite negative (1 <<< 52 + fraction) ((power : Int) - 1075)

def ofFloat (x : Float) : Double := ofBits x.toBits

/-- The least size of an integer that rounds to no double. -/
def integerLimit : Nat := 1 <<< 1024 - 1 <<< 970

def ofInt? (n : Int) : Option Float :=
  if n.natAbs < integerLimit then some (Float.ofInt n) else none

def ratio (mantissa : Nat) (exponent : Int) : Nat × Nat :=
  if 0 ≤ exponent then (mantissa <<< exponent.toNat, 1) else (mantissa, 1 <<< (-exponent).toNat)

def floor? : Double → Option Int
  | finite negative m e =>
    let r := ratio m e
    if negative then some (-(((r.1 + r.2 - 1) / r.2 : Nat) : Int))
    else some ((r.1 / r.2 : Nat) : Int)
  | _ => none

inductive NoWhole where
  | infinity
  | notANumber
  deriving DecidableEq, Repr

def NoWhole.message : NoWhole → String
  | infinity => "cannot convert float infinity to integer"
  | notANumber => "cannot convert float NaN to integer"

def truncate : Double → Except NoWhole Int
  | finite negative m e =>
    let r := ratio m e
    if negative then .ok (-((r.1 / r.2 : Nat) : Int)) else .ok ((r.1 / r.2 : Nat) : Int)
  | infinite _ => .error .infinity
  | notANumber => .error .notANumber

/-- How often a natural number goes into a double, found in double arithmetic: the remainder is
taken away and what is left is divided, both with rounding, so that the quotient may be a little off
an integer; a fraction above one half belongs to the integer above. -/
def floorQuotient? (x : Float) (n : Nat) : Option Float :=
  match (ofFloat x).floor? with
  | none => none
  | some k =>
    match ofInt? (k.fdiv n * n) with
    | none => none
    | some multiple =>
      let q := multiple / Float.ofNat n
      some (if 0.5 < q - q.floor then q.floor + 1.0 else q.floor)

def roundInt? (n : Int) : Option Int :=
  match ofInt? n with
  | some x => (ofFloat x).truncate.toOption
  | none => none

end Double

end Chip8
