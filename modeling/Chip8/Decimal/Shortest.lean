import Chip8.Decimal.Double

/-!
# Shortest decimal text of a double

The text has the fewest digits that read back as the same double, and of those the nearest to it.
The reals that read back as `m * 2 ^ q` form an interval around it, which holds its ends when `m` is
even. For one digit, two digits and so on, the two neighbours of the value on the decimal grid are
tried in exact arithmetic.
-/

namespace Chip8.Decimal

/-- An interval of reals that read back as one double: ends over a common denominator. -/
structure Basin where
  low : Nat
  value : Nat
  high : Nat
  denominator : Nat
  closed : Bool

/-- The reals around a positive `m * 2 ^ q`; below a power of two the gap is half as wide. -/
def basin (m : Nat) (q : Int) : Basin :=
  let r := Double.ratio 1 (q - 2)
  let below := if m = 1 <<< 52 ∧ q ≠ -1074 then 1 else 2
  { low := (4 * m - below) * r.1, value := 4 * m * r.1, high := (4 * m + 2) * r.1,
    denominator := r.2, closed := m % 2 = 0 }

def Basin.holds (b : Basin) (d : Nat) (k : Int) : Bool :=
  let up := Nat.pow 10 k.toNat
  let down := Nat.pow 10 (-k).toNat
  let x := d * up * b.denominator
  if b.closed then b.low * down ≤ x && x ≤ b.high * down
  else b.low * down < x && x < b.high * down

def leadBelow (num den : Nat) : Nat → Nat → Int
  | 0, j => -(j : Int)
  | fuel + 1, j => if num * Nat.pow 10 j < den then leadBelow num den fuel (j + 1) else -(j : Int)

def leadExponent (num den : Nat) : Int :=
  if den ≤ num then ((toString (num / den)).length : Int) - 1 else leadBelow num den 400 1

/-- The grid point with `n` digits next to the value, if one reads back. -/
def gridPoint? (b : Basin) (lead : Int) (n : Nat) : Option (Nat × Int) :=
  let k := lead - n + 1
  let num := b.value * Nat.pow 10 (-k).toNat
  let den := b.denominator * Nat.pow 10 k.toNat
  let d := num / den
  let rest := num % den
  match b.holds d k, b.holds (d + 1) k with
  | true, true =>
    if 2 * rest < den ∨ (2 * rest = den ∧ d % 2 = 0) then some (d, k) else some (d + 1, k)
  | true, false => some (d, k)
  | false, true => some (d + 1, k)
  | false, false => none

def shortest (m : Nat) (q : Int) : Nat × Int :=
  let b := basin m q
  let lead := leadExponent b.value b.denominator
  ((List.range 17).findSome? fun n => gridPoint? b lead (n + 1)).getD (b.value / b.denominator, 0)

def exponentText (e : Int) : String :=
  let digits := toString e.natAbs
  (if e < 0 then "-" else "+") ++ (if digits.length < 2 then "0" ++ digits else digits)

def withPoint : List Char → List Char
  | [] => []
  | [d] => [d]
  | d :: rest => d :: '.' :: rest

def significant (digits : Nat) : List Char × Nat :=
  let r := (toString digits).toList.reverse
  ((r.dropWhile (· = '0')).reverse, (r.takeWhile (· = '0')).length)

/-- The text of `digits * 10 ^ k`: positional for leading exponents from -4 to 15. -/
def place (digits : Nat) (k : Int) : String :=
  let (ds, zeros) := significant digits
  let k := k + zeros
  let lead := (ds.length : Int) + k - 1
  if lead < -4 ∨ 15 < lead then String.ofList (withPoint ds) ++ "e" ++ exponentText lead
  else if lead < 0 then
    "0." ++ String.ofList (List.replicate (-lead - 1).toNat '0' ++ ds)
  else if 0 ≤ k then String.ofList (ds ++ List.replicate k.toNat '0') ++ ".0"
  else
    let whole := (lead + 1).toNat
    String.ofList (ds.take whole) ++ "." ++ String.ofList (ds.drop whole)

def shortestText (x : Float) : String :=
  match Double.ofFloat x with
  | .notANumber => "nan"
  | .infinite negative => if negative then "-inf" else "inf"
  | .finite negative m q =>
    let body :=
      if m = 0 then "0.0"
      else
        let r := shortest m q
        place r.1 r.2
    if negative then "-" ++ body else body

end Chip8.Decimal
