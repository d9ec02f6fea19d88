import Chip8.Text.Basic

/-!
# Integer numerals

An integer on the command line may be surrounded by blanks, may carry a sign, may have leading zeros
and single underscores between its digits, and its digits may come from any script that has decimal
digits. Numerals of more than 4300 digits are refused.
-/

namespace Chip8.Text

/-- The zero of each script's ten consecutive decimal digits. -/
def zeroDigits : List Nat :=
  [0x30, 0x660, 0x6F0, 0x7C0, 0x966, 0x9E6, 0xA66, 0xAE6, 0xB66, 0xBE6, 0xC66, 0xCE6, 0xD66,
   0xDE6, 0xE50, 0xED0, 0xF20, 0x1040, 0x1090, 0x17E0, 0x1810, 0x1946, 0x19D0, 0x1A80, 0x1A90,
   0x1B50, 0x1BB0, 0x1C40, 0x1C50, 0xA620, 0xA8D0, 0xA900, 0xA9D0, 0xA9F0, 0xAA50, 0xABF0,
   0xFF10, 0x104A0, 0x10D30, 0x11066, 0x110F0, 0x11136, 0x111D0, 0x112F0, 0x11450, 0x114D0,
   0x11650, 0x116C0, 0x11730, 0x118E0, 0x11950, 0x11C50, 0x11D50, 0x11DA0, 0x16A60, 0x16AC0,
   0x16B50, 0x1D7CE, 0x1D7D8, 0x1D7E2, 0x1D7EC, 0x1D7F6, 0x1E140, 0x1E2F0, 0x1E950, 0x1FBF0]

def digitValue? (c : Char) : Option Nat :=
  (zeroDigits.find? fun z => z ≤ c.toNat && c.toNat < z + 10).map fun z => c.toNat - z

def isDigit (c : Char) : Bool := (digitValue? c).isSome

/-- Whether a character is a blank of some script; the four information separators are none. -/
def isBlank (c : Char) : Bool :=
  let n := c.toNat
  (0x9 ≤ n && n ≤ 0xD) || n == 0x20 || n == 0x85 || n == 0xA0 || n == 0x1680
    || (0x2000 ≤ n && n ≤ 0x200A) || n == 0x2028 || n == 0x2029 || n == 0x202F || n == 0x205F
    || n == 0x3000

def trimBlanks (cs : List Char) : List Char :=
  ((cs.dropWhile isBlank).reverse.dropWhile isBlank).reverse

def maxDigits : Nat := 4300

/-- The digits of an unsigned numeral: underscores may stand only between two digits. -/
def digits? : List Char → Option (List Nat)
  | [] => none
  | [c] => (digitValue? c).map ([·])
  | c :: '_' :: rest =>
    match digitValue? c, digits? rest with
    | some d, some ds => some (d :: ds)
    | _, _ => none
  | c :: rest =>
    match digitValue? c, digits? rest with
    | some d, some ds => some (d :: ds)
    | _, _ => none

def ofDecimals (ds : List Nat) : Nat := ds.foldl (fun n d => 10 * n + d) 0

inductive NumeralError where
  | malformed
  | tooManyDigits (count : Nat)
  deriving DecidableEq, Repr

def isNumeralPart (c : Char) : Bool := isDigit c || c == '_'

/-- The value of an unsigned numeral. Its digits are counted before it is asked what follows them.
-/
def natural (cs : List Char) : Except NumeralError Nat :=
  match digits? (cs.takeWhile isNumeralPart) with
  | none => .error .malformed
  | some ds =>
    if maxDigits < ds.length then .error (.tooManyDigits ds.length)
    else if (cs.dropWhile isNumeralPart).isEmpty then .ok (ofDecimals ds)
    else .error .malformed

def signed : List Char → Except NumeralError Int
  | '-' :: rest => (natural rest).map fun n => -(n : Int)
  | '+' :: rest => (natural rest).map Int.ofNat
  | rest => (natural rest).map Int.ofNat

/-- The value of an integer numeral; a surrogate is no part of one. -/
def integer (t : Text) : Except NumeralError Int := signed (trimBlanks t.display.toList)

end Chip8.Text
