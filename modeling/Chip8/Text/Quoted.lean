import Chip8.Text.Encoding
import Chip8.Text.Hex
import Chip8.Text.Printable

/-!
# Quoted text

Messages show a text in single quotes, or in double quotes when it holds a single quote and no
double quote. The quote itself, the backslash and unprintable characters are escaped, surrogates
among them.
-/

namespace Chip8.Text

def lowHexDigits (k n : Nat) : List Char := (hexDigits k n).map Char.toLower

def quoteFor (t : Text) : Char :=
  if t.contains '\'' && !t.contains '"' then '"' else '\''

/-- The numeric escape of a code point: two, four or eight digits. -/
def escapeCode (n : Nat) : List Char :=
  if n < 0x100 then '\\' :: 'x' :: lowHexDigits 2 n
  else if n < 0x10000 then '\\' :: 'u' :: lowHexDigits 4 n
  else '\\' :: 'U' :: lowHexDigits 8 n

def escape (quote : Char) (n : Nat) : List Char :=
  if n = quote.toNat ∨ n = '\\'.toNat then ['\\', Char.ofNat n]
  else if n = '\t'.toNat then ['\\', 't']
  else if n = '\n'.toNat then ['\\', 'n']
  else if n = '\r'.toNat then ['\\', 'r']
  else if isPrintable n then [Char.ofNat n]
  else escapeCode n

def quoted (t : Text) : String :=
  let q := quoteFor t
  String.ofList ([q] ++ t.codes.flatMap (escape q) ++ [q])

def EncodeError.message (e : EncodeError) : String :=
  "'utf-8' codec can't encode " ++
    (if e.count = 1 then
      "character '" ++ String.ofList (escapeCode e.code) ++ "' in position " ++ toString e.position
    else
      "characters in position " ++ toString e.position ++ "-"
        ++ toString (e.position + e.count - 1))
    ++ ": surrogates not allowed"

end Chip8.Text
