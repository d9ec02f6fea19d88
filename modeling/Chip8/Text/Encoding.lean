import Chip8.Text.Basic

/-!
# Texts as bytes

A file name is a list of bytes: the UTF-8 form of its text. The surrogates from U+DC80 to U+DCFF
stand for the bytes 0x80 to 0xFF themselves, so that names in no known encoding can be written as
texts. Other surrogates have no bytes.
-/

namespace Chip8.Text

/-- Surrogates without bytes: the first, its position, and how many surrogates follow each other
from there on. -/
structure EncodeError where
  code : Nat
  position : Nat
  count : Nat
  deriving DecidableEq, Repr

def utf8 (n : Nat) : List UInt8 :=
  if n < 0x80 then [UInt8.ofNat n]
  else if n < 0x800 then [UInt8.ofNat (0xC0 + n / 0x40), UInt8.ofNat (0x80 + n % 0x40)]
  else if n < 0x10000 then
    [UInt8.ofNat (0xE0 + n / 0x1000), UInt8.ofNat (0x80 + n / 0x40 % 0x40),
     UInt8.ofNat (0x80 + n % 0x40)]
  else
    [UInt8.ofNat (0xF0 + n / 0x40000), UInt8.ofNat (0x80 + n / 0x1000 % 0x40),
     UInt8.ofNat (0x80 + n / 0x40 % 0x40), UInt8.ofNat (0x80 + n % 0x40)]

def encodeFrom (position : Nat) : List Nat → Except EncodeError (List UInt8)
  | [] => .ok []
  | n :: rest =>
    if isSurrogate n && !(0xDC80 ≤ n && n ≤ 0xDCFF) then
      .error ⟨n, position, (rest.takeWhile isSurrogate).length + 1⟩
    else
      match encodeFrom (position + 1) rest with
      | .error e => .error e
      | .ok bytes =>
        .ok ((if isSurrogate n then [UInt8.ofNat (n - 0xDC00)] else utf8 n) ++ bytes)

def encode (t : Text) : Except EncodeError (List UInt8) := encodeFrom 0 t.codes

end Chip8.Text
