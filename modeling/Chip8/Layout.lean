/-!
# The fixed numbers of the machine

Sizes of memory, registers, stack, display and keypad, the two rates, and the built-in font.
-/

namespace Chip8.Layout

def memorySize : Nat := 4096

def addressMask : Nat := 0xFFF

def programStart : Nat := 0x200

/-- The longest program that fits above the program start. -/
def maxProgramSize : Nat := 3584

def registerCount : Nat := 16

def flagRegister : Nat := 15

def stackDepth : Nat := 16

def keyCount : Nat := 16

def displayWidth : Nat := 64

def displayHeight : Nat := 32

def timerHz : Nat := 60

def defaultCpuHz : Nat := 500

def fontStart : Nat := 0

def glyphSize : Nat := 5

/-- How many of the latest faults are kept. -/
def faultHistory : Nat := 256

/-- The glyphs `0` to `F`, five rows of four pixels each, in the high half of the byte. -/
def font : List UInt8 :=
  [0xF0, 0x90, 0x90, 0x90, 0xF0,
   0x20, 0x60, 0x20, 0x20, 0x70,
   0xF0, 0x10, 0xF0, 0x80, 0xF0,
   0xF0, 0x10, 0xF0, 0x10, 0xF0,
   0x90, 0x90, 0xF0, 0x10, 0x10,
   0xF0, 0x80, 0xF0, 0x10, 0xF0,
   0xF0, 0x80, 0xF0, 0x90, 0xF0,
   0xF0, 0x10, 0x20, 0x40, 0x40,
   0xF0, 0x90, 0xF0, 0x90, 0xF0,
   0xF0, 0x90, 0xF0, 0x10, 0xF0,
   0xF0, 0x90, 0xF0, 0x90, 0x90,
   0xE0, 0x90, 0xE0, 0x90, 0xE0,
   0xF0, 0x80, 0x80, 0x80, 0xF0,
   0xE0, 0x90, 0x90, 0x90, 0xE0,
   0xF0, 0x80, 0xF0, 0x80, 0xF0,
   0xF0, 0x80, 0xF0, 0x80, 0x80]

theorem font_length : font.length = 16 * glyphSize := rfl

end Chip8.Layout
