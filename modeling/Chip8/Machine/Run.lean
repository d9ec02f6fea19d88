import Chip8.Machine.Execute

/-!
# Running

A step is one instruction and, in coupled timing, one tick of the timers. A frame is a number of
steps and, in decoupled timing, one tick at its end. A halted machine does neither.
-/

namespace Chip8.Machine

/-- The timers one tick later; a sound that ends is counted and signalled. -/
def tick (m : Machine) : Machine × List Signal :=
  if m.timers.toneDue then
    ({ m with timers := m.timers.tick, tones := m.tones + 1 }, [.tone])
  else ({ m with timers := m.timers.tick }, [])

def advance (m : Machine) : Machine × List Signal :=
  let r := m.execute
  if r.1.coupled then
    let t := r.1.tick
    (t.1, r.2 ++ t.2)
  else r

def step (m : Machine) : Machine × List Signal × Bool :=
  if m.halted then (m, [], false)
  else
    let r := m.advance
    (r.1, r.2, true)

structure Run where
  machine : Machine
  signals : List Signal
  executed : Nat

/-- Up to `n` steps, fewer if the machine halts. -/
def steps (m : Machine) : Nat → Run
  | 0 => ⟨m, [], 0⟩
  | n + 1 =>
    if m.halted then ⟨m, [], 0⟩
    else
      let a := m.advance
      let r := a.1.steps n
      ⟨r.machine, a.2 ++ r.signals, r.executed + 1⟩

def countFrame (m : Machine) : Machine := { m with frames := m.frames + 1 }

/-- A frame of up to `cycles` instructions; none if the number is not positive. -/
def frame (m : Machine) (cycles : Int) : Run :=
  if m.halted then ⟨m, [], 0⟩
  else
    let r := m.steps cycles.toNat
    if r.machine.coupled then { r with machine := r.machine.countFrame }
    else
      let t := r.machine.tick
      ⟨t.1.countFrame, r.signals ++ t.2, r.executed⟩

/-- A frame of as many instructions as a value says; a halted machine does not look at it. -/
def frameOf (m : Machine) (cycles : Value) : Except OperandError Run :=
  if m.halted then .ok ⟨m, [], 0⟩ else cycles.count.map m.frame

def consume (m : Machine) : Machine × Frame :=
  let r := m.display.consume
  ({ m with display := r.2 }, r.1)

def setKey (m : Machine) (index pressed : Value) : Except Keypad.NoSuchKey Machine :=
  match m.keypad.set index pressed with
  | .ok keypad => .ok { m with keypad := keypad }
  | .error e => .error e

def releaseKeys (m : Machine) : Machine := { m with keypad := m.keypad.clearAll }

theorem releaseKeys_eq (m : Machine) : m.releaseKeys = { m with keypad := Keypad.released } := by
  rw [releaseKeys, Keypad.clearAll_eq]

end Chip8.Machine
