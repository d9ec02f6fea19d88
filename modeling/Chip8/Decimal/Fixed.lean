import Chip8.Decimal.Double

/-!
# Decimal text with a fixed number of places

The exact value of a double is rounded to the asked number of decimal places; a tie goes to the even
neighbour.
-/

namespace Chip8.Decimal

/-- The quotient rounded to the nearest integer, a tie to the even one. -/
def roundDiv (num den : Nat) : Nat :=
  let d := num / den
  let rest := num % den
  if 2 * rest < den ∨ (2 * rest = den ∧ d % 2 = 0) then d else d + 1

def pointBefore (places : Nat) (digits : List Char) : List Char :=
  let padded := List.replicate (places + 1 - digits.length) '0' ++ digits
  padded.take (padded.length - places) ++ '.' :: padded.drop (padded.length - places)

def fixedText (places : Nat) (x : Float) : String :=
  match Double.ofFloat x with
  | .notANumber => "nan"
  | .infinite negative => if negative then "-inf" else "inf"
  | .finite negative m q =>
    let r := Double.ratio m q
    let digits := (toString (roundDiv (r.1 * Nat.pow 10 places) r.2)).toList
    (if negative then "-" else "") ++ String.ofList (pointBefore places digits)

end Chip8.Decimal
