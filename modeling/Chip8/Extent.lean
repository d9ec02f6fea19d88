import Chip8.Decimal.Fixed

/-!
# Extents

An array has a shape, the list of its sides, and items of one kind. Its size in bytes, counted
without the sides that are zero, must fit in sixty-three bits, and the array itself must fit in
memory. Sizes are rounded to doubles and shown in the largest binary unit that they fill, with three
significant digits.
-/

namespace Chip8

inductive ItemKind where
  | byte | sample | double
  deriving DecidableEq, Repr

namespace ItemKind

def size : ItemKind → Nat
  | byte => 1
  | sample => 2
  | double => 8

def name : ItemKind → String
  | byte => "uint8"
  | sample => "int16"
  | double => "float64"

end ItemKind

inductive ExtentError where
  | tooBig
  | noMemory (shape : List Nat) (kind : ItemKind)
  deriving DecidableEq, Repr

namespace Extent

def fits (n : Int) : Prop := -0x8000000000000000 ≤ n ∧ n < 0x8000000000000000

instance (n : Int) : Decidable (fits n) := inferInstanceAs (Decidable (_ ∧ _))

def units : List String := ["bytes", "KiB", "MiB", "GiB", "TiB", "PiB", "EiB"]

/-- A fraction with three significant digits; a fraction of 1000 or more keeps all its digits. -/
def threeDigits (num den : Nat) : String :=
  let hundredths := Decimal.roundDiv (100 * num) den
  let tenths := Decimal.roundDiv (10 * num) den
  let text := fun (places n : Nat) => String.ofList (Decimal.pointBefore places (toString n).toList)
  if hundredths < 1000 then text 2 hundredths
  else if tenths < 1000 then text 1 tenths
  else text 0 (Decimal.roundDiv num den)

def sizeText (bytes : Nat) : String :=
  let size := ((Double.roundInt? bytes).getD bytes).toNat
  let k := max bytes.log2 1 / 10
  let k := if Decimal.roundDiv size (Nat.pow 1024 k) = 1024 then k + 1 else k
  (if k = 0 then toString size else threeDigits size (Nat.pow 1024 k)) ++ " " ++ units.getD k "EiB"

def shapeText : List Nat → String
  | [n] => "(" ++ toString n ++ ",)"
  | sides => "(" ++ ", ".intercalate (sides.map toString) ++ ")"

def memoryLimit : Nat := 1 <<< 37

def bytes (shape : List Nat) (kind : ItemKind) : Nat := kind.size * shape.foldl (· * ·) 1

def problem? (shape : List Nat) (kind : ItemKind) : Option ExtentError :=
  if 0x8000000000000000 ≤ bytes (shape.filter (· ≠ 0)) kind then some .tooBig
  else if memoryLimit < bytes shape kind then some (.noMemory shape kind)
  else none

end Extent

def ExtentError.message : ExtentError → String
  | tooBig =>
    "array is too big; `arr.size * arr.dtype.itemsize` is larger than the maximum possible size."
  | noMemory shape kind =>
    "Unable to allocate " ++ Extent.sizeText (Extent.bytes shape kind)
      ++ " for an array with shape " ++ Extent.shapeText shape ++ " and data type " ++ kind.name

end Chip8
