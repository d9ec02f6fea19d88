import Chip8.Display
import Chip8.Fault
import Chip8.Keypad
import Chip8.Noise
import Chip8.Slot
import Chip8.Timers

/-!
# The state of the machine

All that a running program can see or change, and the counts that its host can ask for. Program
counter, index and return addresses are integers: instructions keep them below 4096, but a host may
store any number, and memory reduces it when it is used.
-/

namespace Chip8

/-- A machine between two instructions. -/
structure Machine where
  memory : Memory
  v : Vector UInt8 16
  index : Int
  pc : Int
  /-- Return addresses, the latest first. -/
  stack : List Int
  timers : Timers
  display : Display
  keypad : Keypad
  noise : Noise
  lastWord : Word
  lastAddress : Int
  cycles : Nat
  /-- Whether the last key instruction is still waiting. -/
  waiting : Bool
  halted : Bool
  frames : Nat
  /-- Sounds that have ended. -/
  tones : Nat
  faults : List Fault
  coupled : Bool

namespace Machine

/-- The parts of a machine as they are made, not yet switched on: there is no font in memory. -/
def assembled (noise : Noise) (coupled : Bool) : Machine where
  memory := Memory.blank
  v := Vector.replicate 16 0
  index := 0
  pc := Layout.programStart
  stack := []
  timers := Timers.zero
  display := Display.blank
  keypad := Keypad.released
  noise := noise
  lastWord := 0
  lastAddress := Layout.programStart
  cycles := 0
  waiting := false
  halted := false
  frames := 0
  tones := 0
  faults := []
  coupled := coupled

def resetProcessor (m : Machine) : Machine :=
  { m with
    v := Vector.replicate 16 0
    index := 0
    pc := Layout.programStart
    stack := []
    lastWord := 0
    lastAddress := Layout.programStart
    cycles := 0
    waiting := false }

/-- Every part reset in place. The random source goes on and the timing mode stays. -/
def reset (m : Machine) : Machine :=
  { m.resetProcessor with
    memory := m.memory.reset
    display := m.display.reset
    keypad := m.keypad.clearAll
    timers := m.timers.reset
    halted := false
    frames := 0
    tones := 0
    faults := [] }

def powerOn (noise : Noise) (coupled : Bool) : Machine := (assembled noise coupled).reset

/-- Whatever a machine has been through, a reset leaves nothing of it. -/
theorem reset_eq (m : Machine) : m.reset = powerOn m.noise m.coupled := by
  simp only [powerOn, reset, Keypad.clearAll_eq, Memory.reset_eq, Timers.reset_eq,
    Display.reset_eq]
  rfl

theorem powerOn_eq (noise : Noise) (coupled : Bool) :
    powerOn noise coupled =
      { assembled noise coupled with memory := Memory.blank.reset } := by
  simp only [powerOn, reset, Keypad.clearAll_eq]
  rfl

theorem isDown_powerOn (noise : Noise) (coupled : Bool) (key : Fin 16) :
    (powerOn noise coupled).keypad.isDown key = false := by
  rw [powerOn_eq]
  exact Keypad.isDown_released key

def reg (m : Machine) (r : Reg) : UInt8 := m.v[r.val]

theorem reg_mod_lt (m : Machine) (r : Reg) : (m.reg r).toNat % 16 < 16 :=
  Nat.mod_lt _ (by decide)

def setReg (m : Machine) (r : Reg) (b : UInt8) : Machine := { m with v := m.v.set r.val b r.isLt }

@[simp]
theorem reg_setReg (m : Machine) (r s : Reg) (b : UInt8) :
    (m.setReg r b).reg s = if r = s then b else m.reg s := by
  simp only [reg, setReg, Vector.getElem_set, Fin.ext_iff]

def assign? (m : Machine) (number value : Value) : Except StoreError Machine :=
  (Slot.locate Layout.registerCount number value).map fun s => m.setReg s.1 s.2

def remember (faults : List Fault) (f : Fault) : List Fault :=
  -- The oldest fault goes when there is no room for one more.
  (faults ++ [f]).drop (faults.length + 1 - Layout.faultHistory)

/-- A fault put on record; a fatal one halts the machine. -/
def record (m : Machine) (f : Fault) : Machine :=
  { m with faults := remember m.faults f, halted := m.halted || f.kind.fatal }

end Machine

end Chip8
