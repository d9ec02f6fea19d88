import Chip8.Instruction.Assembly
import Chip8.Machine.Basic

/-!
# Executing one instruction

`Instruction.effect` says what each instruction does to a machine whose program counter already
points past it, or which stack fault it causes. `Machine.execute` fetches, advances, decodes, and
either applies the effect or records the fault; both count as one instruction.
-/

namespace Chip8

inductive Signal where
  | fetched (line : Line)
  | fault (f : Fault)
  | tone
  | loaded (size : Nat)
  deriving DecidableEq, Repr

namespace Operator

def flagOf (b : Bool) : UInt8 := if b then 1 else 0

/-- The result of an operation and, for arithmetic and shifts, the flag. -/
def apply : Operator → UInt8 → UInt8 → UInt8 × Option UInt8
  | copy, _, vy => (vy, none)
  | or, vx, vy => (vx ||| vy, none)
  | and, vx, vy => (vx &&& vy, none)
  | xor, vx, vy => (vx ^^^ vy, none)
  | add, vx, vy => (vx + vy, some (flagOf (255 < vx.toNat + vy.toNat)))
  | sub, vx, vy => (vx - vy, some (flagOf (vy ≤ vx)))
  | shiftRight, vx, _ => (vx >>> 1, some (vx &&& 1))
  | subFrom, vx, vy => (vy - vx, some (flagOf (vx ≤ vy)))
  | shiftLeft, vx, _ => (vx <<< 1, some (vx >>> 7))

end Operator

namespace Machine

def wrap (address : Int) : Int := address % 4096

theorem wrap_nonneg (address : Int) : 0 ≤ wrap address := by
  unfold wrap
  omega

theorem wrap_lt (address : Int) : wrap address < 4096 := by
  unfold wrap
  omega

def skipIf (m : Machine) (condition : Bool) : Machine :=
  if condition then { m with pc := wrap (m.pc + 2) } else m

/-- The flag, if there is one, written before the result: a result for `VF` stays. -/
def operate (m : Machine) (op : Operator) (x y : Reg) : Machine :=
  let r := op.apply (m.reg x) (m.reg y)
  match r.2 with
  | none => m.setReg x r.1
  | some f => (m.setReg flag f).setReg x r.1

def lowRegisters (m : Machine) (x : Reg) : List UInt8 := m.v.toList.take (x.val + 1)

def decimals (b : UInt8) : List UInt8 := [b / 100, b / 10 % 10, b % 10]

end Machine

namespace Instruction

open Machine (wrap)

/-- What an instruction does; the program counter already points past it. -/
def effect (i : Instruction) (m : Machine) : Except FaultKind Machine :=
  match i with
  | clear => .ok { m with display := m.display.clear }
  | ret =>
    match m.stack with
    | [] => .error .stackUnderflow
    | address :: rest => .ok { m with pc := address, stack := rest }
  | jump t => .ok { m with pc := t.val }
  | call t =>
    if Layout.stackDepth ≤ m.stack.length then .error .stackOverflow
    else .ok { m with pc := t.val, stack := m.pc :: m.stack }
  | skipIfByte x b => .ok (m.skipIf (m.reg x = b))
  | skipUnlessByte x b => .ok (m.skipIf (m.reg x ≠ b))
  | skipIfEqual x y => .ok (m.skipIf (m.reg x = m.reg y))
  | loadByte x b => .ok (m.setReg x b)
  | addByte x b => .ok (m.setReg x (m.reg x + b))
  | operate op x y => .ok (m.operate op x y)
  | skipUnlessEqual x y => .ok (m.skipIf (m.reg x ≠ m.reg y))
  | setIndex t => .ok { m with index := t.val }
  | jumpFrom t => .ok { m with pc := wrap (t.val + (m.reg 0).toNat) }
  | random x mask =>
    let r := m.noise.draw
    .ok ({ m with noise := r.2 }.setReg x (r.1 &&& mask))
  | draw x y height =>
    let sprite := m.memory.read m.index height.val
    let r := m.display.draw (m.reg x).toNat (m.reg y).toNat sprite
    .ok ({ m with display := r.1 }.setReg flag (Operator.flagOf r.2))
  | skipIfKey x => .ok (m.skipIf (m.keypad.isDown ⟨(m.reg x).toNat % 16, m.reg_mod_lt x⟩))
  | skipUnlessKey x => .ok (m.skipIf (!m.keypad.isDown ⟨(m.reg x).toNat % 16, m.reg_mod_lt x⟩))
  | readDelay x => .ok (m.setReg x m.timers.delay)
  | awaitKey x =>
    match m.keypad.lowest? with
    -- The same word is fetched again, until a key is held.
    | none => .ok { m with pc := wrap (m.pc - 2), waiting := true }
    | some key => .ok ({ m with waiting := false }.setReg x (UInt8.ofNat key.val))
  | setDelay x => .ok { m with timers := { m.timers with delay := m.reg x } }
  | setSound x => .ok { m with timers := { m.timers with sound := m.reg x } }
  | addIndex x => .ok { m with index := wrap (m.index + (m.reg x).toNat) }
  -- The whole byte counts, also where there is no glyph for it.
  | glyph x => .ok { m with index := (m.reg x).toNat * Layout.glyphSize }
  | digits x => .ok { m with memory := m.memory.write m.index (Machine.decimals (m.reg x)) }
  | save x =>
    .ok { m with memory := m.memory.write m.index (m.lowRegisters x),
                 index := wrap (m.index + x.val + 1) }
  | restore x =>
    -- Every register is read at an address of its own, which wraps by itself.
    .ok { m with v := Vector.ofFn fun r =>
                   if r.val ≤ x.val then m.memory.get (m.index + r.val) else m.reg r,
                 index := wrap (m.index + x.val + 1) }

end Instruction

namespace Machine

def nextWord (m : Machine) : Word := m.memory.word m.pc

/-- The machine after the fetch: past the word, with the word and its place noted. -/
def fetch (m : Machine) : Machine :=
  { m with pc := wrap (m.pc + 2), lastWord := m.nextWord, lastAddress := m.pc }

def attempt (m : Machine) (w : Word) : Except FaultKind Machine :=
  match Instruction.decode? w with
  | none => .error .unknownOpcode
  | some i => i.effect m

def count (m : Machine) : Machine := { m with cycles := m.cycles + 1 }

/-- One instruction fetched and executed, whether or not the machine is halted. -/
def execute (m : Machine) : Machine × List Signal :=
  let w := m.nextWord
  let line : Line := ⟨m.pc, w⟩
  match m.fetch.attempt w with
  | .ok m' => (m'.count, [.fetched line])
  | .error kind =>
    let f : Fault := ⟨kind, m.pc, w.toNat, m.cycles⟩
    ((m.fetch.record f).count, [.fetched line, .fault f])

end Machine

end Chip8
