import Chip8.Machine.Operation
import Mathlib.Data.Int.Bitwise

/-!
# The machine in plain numbers

Here a machine is made of integers and of rows of integers, and no type bounds them. Registers,
cells, pixels, keys and the handlers of instructions are reached by an integer that may miss the
row, and a byte is stored only if it is one. Every access says which of these went wrong. The
results of arithmetic are reduced where an instruction reduces them and nowhere else.
-/

namespace Chip8

inductive AccessError where
  | noItem
  | noByte
  | noKey
  deriving DecidableEq, Repr

namespace Row

variable {α : Type}

/- A negative position counts from the end of the row. -/
def get (row : List α) (position : Int) : Except AccessError α :=
  match Slot.ofPosition? row.length position with
  | some slot => .ok (row.get slot)
  | none => .error .noItem

def put (row : List α) (position : Int) (a : α) : Except AccessError (List α) :=
  match Slot.ofPosition? row.length position with
  | some slot => .ok (row.set slot.val a)
  | none => .error .noItem

def byte (n : Int) : Except AccessError Int :=
  if 0 ≤ n ∧ n ≤ 255 then .ok n else .error .noByte

def ofBytes (bytes : List UInt8) : List Int := bytes.map fun b => (b.toNat : Int)

def putByte (row : List Int) (position n : Int) : Except AccessError (List Int) := do
  let n ← byte n
  put row position n

/- The part of a row from a position on, replaced by as many other items. -/
def splice (row : List α) (start : Nat) (items : List α) : List α :=
  row.take start ++ items ++ row.drop (start + items.length)

end Row

structure Numbers where
  memory : List Int
  v : List Int
  index : Int
  pc : Int
  stack : List Int
  delay : Int
  sound : Int
  pixels : List Int
  dirty : Bool
  keys : List Bool
  noise : Noise
  opcode : Int
  address : Int
  clock : Nat
  waiting : Bool
  halted : Bool
  frames : Nat
  tones : Nat
  faults : List Fault
  coupled : Bool

namespace Numbers

/-! ### Accesses -/

def reg (s : Numbers) (x : Int) : Except AccessError Int := Row.get s.v x

def setReg (s : Numbers) (x n : Int) : Except AccessError Numbers := do
  let v ← Row.putByte s.v x n
  return { s with v := v }

/- An address is reduced before the access, and so is what is stored there. -/
def cell (s : Numbers) (address : Int) : Except AccessError Int := Row.get s.memory (address % 4096)

def setCell (s : Numbers) (address n : Int) : Except AccessError Numbers := do
  let memory ← Row.putByte s.memory (address % 4096) (n % 256)
  return { s with memory := memory }

def writeBlock (s : Numbers) (address : Int) : List Int → Except AccessError Numbers
  | [] => return s
  | n :: rest => do
    let s ← s.setCell address n
    s.writeBlock (address + 1) rest

def readBlock (s : Numbers) (address : Int) : Nat → Except AccessError (List Int)
  | 0 => return []
  | count + 1 => do
    let n ← s.cell address
    let n ← Row.byte n
    let rest ← s.readBlock (address + 1) count
    return n :: rest

def isKeyDown (s : Numbers) (key : Int) : Except AccessError Bool :=
  if 0 ≤ key ∧ key < 16 then Row.get s.keys key else .error .noKey

def clearKeys (s : Numbers) : Except AccessError Numbers := do
  let keys ← (List.range 16).foldlM (fun keys (k : Nat) => Row.put keys k false) s.keys
  return { s with keys := keys }

/- One pixel flipped, and whether it was lit. -/
def plot (pixels : List Int) (position : Int) : Except AccessError (List Int × Bool) := do
  let p ← Row.get pixels position
  let pixels ← Row.putByte pixels position (Int.xor p 1)
  return (pixels, p ≠ 0)

def plotRow (x base bits : Int) :
    List Nat → List Int × Bool → Except AccessError (List Int × Bool)
  | [], r => return r
  | column :: rest, r =>
    if (bits >>> (7 - column)) % 2 = 1 then do
      let q ← plot r.1 (base + (x + column) % 64)
      plotRow x base bits rest (q.1, r.2 || q.2)
    else plotRow x base bits rest r

def plotRows (x y : Int) : List Int → List Int × Bool → Except AccessError (List Int × Bool)
  | [], r => return r
  | bits :: rest, r => do
    let r ← plotRow x (y % 32 * 64) bits (List.range 8) r
    plotRows x (y + 1) rest r

/-! ### Instructions -/

abbrev Handler := Numbers → Except AccessError Numbers

def x (s : Numbers) : Int := s.opcode / 256 % 16

def y (s : Numbers) : Int := s.opcode / 16 % 16

def n (s : Numbers) : Int := s.opcode % 16

def nn (s : Numbers) : Int := s.opcode % 256

def nnn (s : Numbers) : Int := s.opcode % 4096

def report (s : Numbers) (kind : FaultKind) : Numbers :=
  { s with
    faults := Machine.remember s.faults ⟨kind, s.address, s.opcode, s.clock⟩
    halted := s.halted || kind.fatal }

def undefined : Handler := fun s => return s.report .unknownOpcode

def skipIf (s : Numbers) (condition : Bool) : Numbers :=
  if condition then { s with pc := (s.pc + 2) % 4096 } else s

def setWithFlag (s : Numbers) (result flag : Int) : Except AccessError Numbers := do
  let s ← s.setReg 15 flag
  s.setReg s.x (result % 256)

def clear : Handler := fun s =>
  return { s with pixels := List.replicate s.pixels.length 0, dirty := true }

def ret : Handler := fun s =>
  match s.stack with
  | [] => return s.report .stackUnderflow
  | address :: rest => return { s with pc := address, stack := rest }

def jump : Handler := fun s => return { s with pc := s.nnn }

def call : Handler := fun s =>
  if 16 ≤ s.stack.length then return s.report .stackOverflow
  else return { s with pc := s.nnn, stack := s.pc :: s.stack }

/- The four skips that compare a register with the low byte or with another register. -/
def compareByte (wanted : Bool) : Handler := fun s => do
  let a ← s.reg s.x
  return s.skipIf ((a = s.nn) == wanted)

def compareRegister (wanted : Bool) : Handler := fun s => do
  let a ← s.reg s.x
  let b ← s.reg s.y
  return s.skipIf ((a = b) == wanted)

def onlyZero (handler : Handler) : Handler := fun s => if s.n = 0 then handler s else undefined s

def loadByte : Handler := fun s => s.setReg s.x s.nn

def addByte : Handler := fun s => do
  let a ← s.reg s.x
  s.setReg s.x ((a + s.nn) % 256)

def copy : Handler := fun s => do
  let b ← s.reg s.y
  s.setReg s.x b

def combine (f : Int → Int → Int) : Handler := fun s => do
  let a ← s.reg s.x
  let b ← s.reg s.y
  s.setReg s.x (f a b)

def compute (f : Int → Int → Int × Int) : Handler := fun s => do
  let a ← s.reg s.x
  let b ← s.reg s.y
  s.setWithFlag (f a b).1 (f a b).2

def shift (f : Int → Int × Int) : Handler := fun s => do
  let a ← s.reg s.x
  s.setWithFlag (f a).1 (f a).2

def setIndex : Handler := fun s => return { s with index := s.nnn }

def jumpFrom : Handler := fun s => do
  let a ← s.reg 0
  return { s with pc := (s.nnn + a) % 4096 }

def random : Handler := fun s =>
  { s with noise := s.noise.draw.2 }.setReg s.x (Int.land s.noise.draw.1.toNat s.nn)

def draw : Handler := fun s => do
  let sprite ← s.readBlock s.index s.n.toNat
  let a ← s.reg s.x
  let b ← s.reg s.y
  let r ← plotRows a b sprite (s.pixels, false)
  { s with pixels := r.1, dirty := true }.setReg 15 (if r.2 then 1 else 0)

def checkKey (wanted : Bool) : Handler := fun s => do
  let a ← s.reg s.x
  let down ← s.isKeyDown (a % 16)
  return s.skipIf (down == wanted)

def readDelay : Handler := fun s => s.setReg s.x s.delay

def awaitKey : Handler := fun s =>
  match s.keys.findIdx? id with
  | none => return { s with pc := (s.pc - 2) % 4096, waiting := true }
  | some key => do
    let s ← s.setReg s.x key
    return { s with waiting := false }

def setDelay : Handler := fun s => do
  let a ← s.reg s.x
  return { s with delay := a % 256 }

def setSound : Handler := fun s => do
  let a ← s.reg s.x
  return { s with sound := a % 256 }

def addIndex : Handler := fun s => do
  let a ← s.reg s.x
  return { s with index := (s.index + a) % 4096 }

/- The only address that is not reduced. -/
def glyph : Handler := fun s => do
  let a ← s.reg s.x
  return { s with index := Layout.fontStart + a * Layout.glyphSize }

def digits : Handler := fun s => do
  let a ← s.reg s.x
  let s ← s.setCell s.index (a / 100)
  let s ← s.setCell (s.index + 1) (a / 10 % 10)
  s.setCell (s.index + 2) (a % 10)

def stepIndex (s : Numbers) : Numbers := { s with index := (s.index + s.x + 1) % 4096 }

def save : Handler := fun s => do
  let s ← (List.range (s.x.toNat + 1)).foldlM (fun s (r : Nat) => do
    let a ← s.reg r
    s.setCell (s.index + r) a) s
  return s.stepIndex

def restore : Handler := fun s => do
  let s ← (List.range (s.x.toNat + 1)).foldlM (fun s (r : Nat) => do
    let a ← s.cell (s.index + r)
    s.setReg r a) s
  return s.stepIndex

/-! ### Tables -/

def look (table : List (Int × Handler)) (selector : Numbers → Int) : Handler := fun s =>
  (table.lookup (selector s)).getD undefined s

def lowTable : List (Int × Handler) := [(0x0E0, clear), (0x0EE, ret)]

def operatorTable : List (Int × Handler) :=
  [(0x0, copy),
   (0x1, combine Int.lor),
   (0x2, combine Int.land),
   (0x3, combine Int.xor),
   (0x4, compute fun a b => (a + b, if 255 < a + b then 1 else 0)),
   (0x5, compute fun a b => (a - b, if b ≤ a then 1 else 0)),
   (0x6, shift fun a => (a / 2, a % 2)),
   (0x7, compute fun a b => (b - a, if a ≤ b then 1 else 0)),
   (0xE, shift fun a => (a * 2, a / 128 % 2))]

def keyTable : List (Int × Handler) := [(0x9E, checkKey true), (0xA1, checkKey false)]

def deviceTable : List (Int × Handler) :=
  [(0x07, readDelay), (0x0A, awaitKey), (0x15, setDelay), (0x18, setSound), (0x1E, addIndex),
   (0x29, glyph), (0x33, digits), (0x55, save), (0x65, restore)]

/- One handler for each highest digit. -/
def handlers : List Handler :=
  [look lowTable nnn, jump, call, compareByte true, compareByte false,
   onlyZero (compareRegister true), loadByte, addByte, look operatorTable n,
   onlyZero (compareRegister false), setIndex, jumpFrom, random, draw, look keyTable nn,
   look deviceTable nn]

/-! ### Running -/

def fetch (s : Numbers) : Except AccessError Numbers := do
  let high ← s.cell s.pc
  let low ← s.cell (s.pc + 1)
  return { s with pc := (s.pc + 2) % 4096, address := s.pc, opcode := Int.lor (high * 256) low }

def execute (s : Numbers) : Except AccessError Numbers := do
  let s ← s.fetch
  let handler ← Row.get handlers (s.opcode / 4096)
  let s ← handler s
  return { s with clock := s.clock + 1 }

def countDown (s : Numbers) : Numbers :=
  { s with
    delay := if 0 < s.delay then s.delay - 1 else s.delay
    sound := if 0 < s.sound then s.sound - 1 else s.sound }

/- A tone is due if the sound timer has just come down to zero. -/
def tick (s : Numbers) : Numbers :=
  if 0 < s.sound ∧ s.countDown.sound = 0 then { s.countDown with tones := s.tones + 1 }
  else s.countDown

def step (s : Numbers) : Except AccessError (Numbers × Bool) :=
  if s.halted then return (s, false)
  else do
    let s ← s.execute
    return (if s.coupled then s.tick else s, true)

def steps (s : Numbers) : Nat → Except AccessError (Numbers × Nat)
  | 0 => return (s, 0)
  | count + 1 => do
    let r ← s.step
    if r.2 then
      let q ← r.1.steps count
      return (q.1, q.2 + 1)
    else return (r.1, 0)

def frame (s : Numbers) (cycles : Int) : Except AccessError (Numbers × Nat) :=
  if s.halted then return (s, 0)
  else do
    let r ← s.steps cycles.toNat
    let s := if r.1.coupled then r.1 else r.1.tick
    return ({ s with frames := s.frames + 1 }, r.2)

/-! ### Operations -/

def assembled (noise : Noise) (coupled : Bool) : Numbers where
  memory := List.replicate 4096 0
  v := List.replicate 16 0
  index := 0
  pc := 0x200
  stack := []
  delay := 0
  sound := 0
  pixels := List.replicate 2048 0
  dirty := false
  keys := List.replicate 16 false
  noise := noise
  opcode := 0
  address := 0x200
  clock := 0
  waiting := false
  halted := false
  frames := 0
  tones := 0
  faults := []
  coupled := coupled

def reset (s : Numbers) : Except AccessError Numbers :=
  { s with
    memory := Row.splice (List.replicate 4096 0) 0 (Row.ofBytes Layout.font)
    v := List.replicate 16 0
    index := 0
    pc := 0x200
    stack := []
    opcode := 0
    address := 0x200
    clock := 0
    waiting := false
    pixels := List.replicate s.pixels.length 0
    dirty := false
    delay := 0
    sound := 0
    halted := false
    frames := 0
    tones := 0
    faults := [] }.clearKeys

/- What a host asks for with an argument that is refused leaves the numbers alone. -/
def perform (s : Numbers) : Machine.Op → Except AccessError Numbers
  | .reset => s.reset
  | .load data =>
    match data.program with
    | .ok program => s.writeBlock 0x200 (Row.ofBytes program)
    | .error _ => return s
  | .step => s.step.map Prod.fst
  | .frame cycles =>
    match cycles.count with
    | .ok n => (s.frame n).map Prod.fst
    | .error _ => return s
  | .tick => return s.tick
  | .setKey index pressed =>
    match Keypad.key? index with
    | .ok key => do
      let keys ← Row.put s.keys key.val pressed.truthy
      return { s with keys := keys }
    | .error _ => return s
  | .releaseKeys => s.clearKeys
  | .consume => return { s with dirty := false }

def after (s : Numbers) : List Machine.Op → Except AccessError Numbers
  | [] => return s
  | op :: rest => do
    let s ← s.perform op
    s.after rest

def run (noise : Noise) (coupled : Bool) (ops : List Machine.Op) : Except AccessError Numbers := do
  let s ← (assembled noise coupled).reset
  s.after ops

/-! ### Bounds -/

structure Bounded (s : Numbers) : Prop where
  memory_size : s.memory.length = 4096
  memory_bytes : ∀ n ∈ s.memory, 0 ≤ n ∧ n ≤ 255
  register_count : s.v.length = 16
  register_bytes : ∀ n ∈ s.v, 0 ≤ n ∧ n ≤ 255
  pc : 0 ≤ s.pc ∧ s.pc ≤ 0xFFF
  index : 0 ≤ s.index ∧ s.index ≤ 0xFFF
  depth : s.stack.length ≤ 16
  returns : ∀ a ∈ s.stack, 0 ≤ a ∧ a ≤ 0xFFF
  delay : 0 ≤ s.delay ∧ s.delay ≤ 255
  sound : 0 ≤ s.sound ∧ s.sound ≤ 255
  pixel_count : s.pixels.length = 2048
  pixel_values : ∀ p ∈ s.pixels, p = 0 ∨ p = 1
  key_count : s.keys.length = 16
  history : s.faults.length ≤ 256

/- A tick makes no access, so it has nothing to answer for. -/
structure Answering (s : Numbers) : Prop where
  step : ∃ t ran, s.step = .ok (t, ran)
  frame : ∀ cycles, ∃ t executed, s.frame cycles = .ok (t, executed)

end Numbers

end Chip8
