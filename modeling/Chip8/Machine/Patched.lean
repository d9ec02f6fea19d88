import Chip8.Machine.Operation

/-!
# Machines patched by their host

A host may put a value of any kind into the program counter, the index or the stack. The machine
keeps such a value until it is replaced, and hands it out again as it is. A truth value works as an
address; any other value that is no integer is refused by the first instruction that uses it: the
program counter before anything is fetched, the index when the instruction has been fetched but has
done nothing else. A random byte of another kind is refused as well, once it is drawn. A machine
without patches behaves as a machine does.
-/

namespace Chip8

/-- A machine and the values in it that are no integers. -/
structure Patched where
  machine : Machine
  pc : Option Value := none
  index : Option Value := none
  /-- What stands on the stack, by the height above its bottom. -/
  stack : List (Nat × Value) := []
  lastAddress : Option Value := none
  /-- What the program counter was at the instructions with the given counts. -/
  addresses : List (Int × Value) := []
  draws : Nat → Option Value := fun _ => none

namespace Patched

def ofMachine (m : Machine) : Patched := { machine := m }

def restart (p : Patched) (m : Machine) : Patched := { machine := m, draws := p.draws }

/-- The patch that a value is; an integer is none. -/
def patch? : Value → Option Value
  | .int _ => none
  | v => some v

/-- The draws, over and over those of a list, that are no integers. -/
def oddDraws (values : Array Value) : Nat → Option Value :=
  fun k => (values[k % values.size]?).bind patch?

def address (v : Value) : Int := v.toInt?.getD 0

def setPc (p : Patched) (v : Value) : Patched :=
  { p with machine := { p.machine with pc := address v }, pc := patch? v }

def setIndex (p : Patched) (v : Value) : Patched :=
  { p with machine := { p.machine with index := address v }, index := patch? v }

def push (p : Patched) (v : Value) : Patched :=
  { p with machine := { p.machine with stack := address v :: p.machine.stack },
           stack := ((patch? v).map fun v => (p.machine.stack.length, v)).toList ++ p.stack }

/-! ### What the host sees -/

def pcValue (p : Patched) : Value := p.pc.getD (.int p.machine.pc)

def indexValue (p : Patched) : Value := p.index.getD (.int p.machine.index)

def stackValues (p : Patched) : List Value :=
  p.machine.stack.reverse.zipIdx.map fun a => (p.stack.lookup a.2).getD (.int a.1)

def lastAddressValue (p : Patched) : Value := p.lastAddress.getD (.int p.machine.lastAddress)

def faultAddress (p : Patched) (f : Fault) : Value :=
  (p.addresses.lookup f.cycle).getD (.int f.address)

/-- Why the machine cannot be described: the program counter or the index has no digits. -/
def digitsProblem? (p : Patched) : Option Fault.DigitsError :=
  match Fault.digitsOf 3 p.pcValue, Fault.digitsOf 3 p.indexValue with
  | .error e, _ => some e
  | .ok _, .error e => some e
  | .ok _, .ok _ => none

/-! ### Instructions -/

def indexPlus (p : Patched) (n : Nat) : Except OperandError Int :=
  match p.indexValue.plus n with
  | .error e => .error e
  | .ok v => v.bits "&"

/-- The next random byte as far as it is no byte, else zero. -/
def nextDraw (p : Patched) : Except OperandError Int :=
  match p.draws p.machine.noise.drawn with
  | none => .ok 0
  | some v => v.bits "&"

/-- The integer that an instruction makes of a value that may be patched: its first address of the
index, or the byte that it draws; zero if it makes none. -/
def patchUse (p : Patched) : Instruction → Except OperandError Int
  | .draw _ _ height => if height.val = 0 then .ok 0 else p.indexPlus 0
  | .addIndex x => p.indexPlus (p.machine.reg x).toNat
  | .digits _ => p.indexValue.bits "&"
  | .save _ => p.indexPlus 0
  | .restore _ => p.indexPlus 0
  | .random _ _ => p.nextDraw
  | _ => .ok 0

/-- The machine after an instruction was refused: a drawn byte is used up. -/
def refuse (m : Machine) : Option Instruction → Machine
  | some (.random _ _) => { m.fetch with noise := m.noise.draw.2 }
  | _ => m.fetch

def replacesIndex : Instruction → Bool
  | .setIndex _ => true
  | .addIndex _ => true
  | .glyph _ => true
  | .save _ => true
  | .restore _ => true
  | _ => false

def refusal? (p : Patched) (w : Word) : Option OperandError :=
  match (Instruction.decode? w).map p.patchUse with
  | some (.error e) => some e
  | _ => none

def settle (p : Patched) (w : Word) (m : Machine) : Patched :=
  { p with
    machine := m
    lastAddress := p.pc
    addresses := (p.pc.map fun v => ((p.machine.cycles : Int), v)).toList ++ p.addresses
    pc := if m.stack.length < p.machine.stack.length then p.stack.lookup m.stack.length else none
    index := if (Instruction.decode? w).any replacesIndex then none else p.index
    stack := p.stack.filter fun s => s.1 < m.stack.length }

def execute (p : Patched) : Patched × List Signal × Option OperandError :=
  match p.pcValue.bits "&" with
  | .error e => (p, [], some e)
  | .ok _ =>
    let w := p.machine.nextWord
    match p.refusal? w with
    | some e =>
      ({ p with machine := refuse p.machine (Instruction.decode? w), pc := none,
                lastAddress := p.pc },
        [.fetched ⟨p.machine.pc, w⟩], some e)
    | none =>
      let r := p.machine.execute
      (p.settle w r.1, r.2, none)

/-! ### Steps and frames -/

def tick (p : Patched) : Patched × List Signal :=
  let t := p.machine.tick
  ({ p with machine := t.1 }, t.2)

def advance (p : Patched) : Patched × List Signal × Option OperandError :=
  match p.execute with
  | (q, signals, some e) => (q, signals, some e)
  | (q, signals, none) =>
    if q.machine.coupled then
      let t := q.tick
      (t.1, signals ++ t.2, none)
    else (q, signals, none)

def step (p : Patched) : Patched × List Signal × Except OperandError Bool :=
  if p.machine.halted then (p, [], .ok false)
  else
    match p.advance with
    | (q, signals, some e) => (q, signals, .error e)
    | (q, signals, none) => (q, signals, .ok true)

def steps (p : Patched) : Nat → Patched × List Signal × Except OperandError Nat
  | 0 => (p, [], .ok 0)
  | n + 1 =>
    if p.machine.halted then (p, [], .ok 0)
    else
      match p.advance with
      | (q, signals, some e) => (q, signals, .error e)
      | (q, signals, none) =>
        let r := q.steps n
        (r.1, signals ++ r.2.1, r.2.2.map (· + 1))

def frame (p : Patched) (cycles : Value) : Patched × List Signal × Except OperandError Nat :=
  if p.machine.halted then (p, [], .ok 0)
  else
    match cycles.count with
    | .error e => (p, [], .error e)
    | .ok n =>
      match p.steps n.toNat with
      | (q, signals, .error e) => (q, signals, .error e)
      | (q, signals, .ok k) =>
        let t := if q.machine.coupled then (q, []) else q.tick
        ({ t.1 with machine := t.1.machine.countFrame }, signals ++ t.2, .ok k)

def answer {α : Type} (enc : α → Machine.Answer) : Except OperandError α → Machine.Answer
  | .ok a => enc a
  | .error e => .refused (.operand e)

def perform (p : Patched) (op : Machine.Op) : Patched × List Signal × Machine.Answer :=
  match op with
  | .step =>
    let r := p.step
    (r.1, r.2.1, answer .ran r.2.2)
  | .frame cycles =>
    let r := p.frame cycles
    (r.1, r.2.1, answer .count r.2.2)
  | .reset => (p.restart p.machine.reset, [], .done)
  | op =>
    let r := p.machine.perform op
    ({ p with machine := r.machine }, r.signals, r.answer)

/-! ### Without patches -/

theorem indexPlus_ofMachine (m : Machine) (n : Nat) :
    (ofMachine m).indexPlus n = .ok (m.index + n) := rfl

theorem patchUse_ofMachine (m : Machine) (i : Instruction) :
    ∃ a, (ofMachine m).patchUse i = .ok a := by
  cases i with
  | draw x y height =>
    by_cases h : height.val = 0
    · exact ⟨0, by simp only [patchUse, h, if_true]⟩
    · exact ⟨m.index + (0 : Nat), by simp only [patchUse, h, if_false, indexPlus_ofMachine]⟩
  | _ => exact ⟨_, rfl⟩

theorem refusal?_ofMachine (m : Machine) (w : Word) : (ofMachine m).refusal? w = none := by
  unfold refusal?
  cases Instruction.decode? w with
  | none => rfl
  | some i =>
    obtain ⟨a, ha⟩ := patchUse_ofMachine m i
    simp only [Option.map_some, ha]

/-- Without patches an instruction does what it does to the machine. -/
theorem execute_ofMachine (m : Machine) :
    (ofMachine m).execute = (ofMachine m.execute.1, m.execute.2, none) := by
  have hw : (ofMachine m).refusal? (ofMachine m).machine.nextWord = none := refusal?_ofMachine m _
  unfold execute
  simp only [pcValue, ofMachine, Option.getD_none, Value.bits, Value.toInt?] at hw ⊢
  simp only [hw]
  simp [settle]

end Patched

end Chip8
