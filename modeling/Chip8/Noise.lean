/-!
# Random bytes

A source of random bytes is an endless sequence and the number of bytes already drawn from it.
-/

namespace Chip8

/-- An endless sequence of bytes and how many of them are used up. -/
structure Noise where
  byte : Nat → UInt8
  drawn : Nat

namespace Noise

def fresh (byte : Nat → UInt8) : Noise := ⟨byte, 0⟩

/-- The bytes of a list over and over; zeros if it is empty. -/
def cycle (bytes : Array UInt8) : Nat → UInt8 :=
  fun k => bytes.getD (k % bytes.size) 0

def draw (n : Noise) : UInt8 × Noise := (n.byte n.drawn, { n with drawn := n.drawn + 1 })

end Noise

end Chip8
