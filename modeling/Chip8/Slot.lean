import Chip8.Arithmetic
import Chip8.Memory

/-!
# Slots

A host stores bytes in a row of slots, such as the registers or the pixels of a frame. It names the
slot by a value, and negative positions count from the end of the row. The position is looked at
first, then the byte, and last whether the row has such a slot.
-/

namespace Chip8

inductive StoreError where
  /-- The position cannot be worked out, or it or the value is no integer. -/
  | arithmetic (e : ArithmeticError)
  | hugePosition
  | noByte
  | noSlot
  deriving DecidableEq, Repr

def StoreError.message : StoreError → String
  | arithmetic e => e.message
  | hugePosition => "cannot fit 'int' into an index-sized integer"
  | noByte => "byte must be in range(0, 256)"
  | noSlot => "bytearray index out of range"

namespace Slot

def ofPosition? (size : Nat) (position : Int) : Option (Fin size) :=
  let k := if position < 0 then position + size else position
  if h : 0 ≤ k ∧ k < size then some ⟨k.toNat, by omega⟩ else none

def locate (size : Nat) (position value : Value) : Except StoreError (Fin size × UInt8) :=
  match position.toInt?, value.count with
  | none, _ => .error (.arithmetic (.operand (.badIndex position.kindName)))
  | some k, n =>
    if ¬Extent.fits k then .error .hugePosition
    else
      match n, ofPosition? size k with
      | .error e, _ => .error (.arithmetic (.operand e))
      | .ok n, slot =>
        if n < 0 ∨ 256 ≤ n then .error .noByte
        else
          match slot with
          | some slot => .ok (slot, byteOf n)
          | none => .error .noSlot

end Slot

end Chip8
