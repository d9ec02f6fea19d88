import Chip8.Layout
import Chip8.Instruction.Basic
import Chip8.Operand

/-!
# Memory

4096 bytes. Every integer is an address: it is reduced modulo the size, so reads and writes that run
past the end go on at the beginning, and negative addresses count from the end. The view of a memory
is `Memory.get`; each operation says what it does to that view.
-/

namespace Chip8

def byteOf (n : Int) : UInt8 := UInt8.ofNat (n % 256).toNat

theorem byteOf_toNat (n : Int) : (byteOf n).toNat = (n % 256).toNat := by
  simp only [byteOf, UInt8.toNat_ofNat']
  omega

@[simp]
theorem byteOf_natCast_toNat (b : UInt8) : byteOf (b.toNat : Int) = b := by
  have := b.toNat_lt
  apply UInt8.toNat_inj.mp
  rw [byteOf_toNat]
  omega

theorem byteOf_emod (n : Int) : byteOf (n % 256) = byteOf n := by
  simp only [byteOf, Int.emod_emod_of_dvd n (Int.dvd_refl 256)]

def cell (address : Int) : Fin 4096 := ⟨(address % 4096).toNat, by omega⟩

theorem cell_val (address : Int) : ((cell address).val : Int) = address % 4096 := by
  simp only [cell]
  omega

theorem cell_eq_iff (a b : Int) : cell a = cell b ↔ a % 4096 = b % 4096 := by
  rw [Fin.ext_iff]
  simp only [cell]
  omega

structure Memory where
  cells : Vector UInt8 4096

namespace Memory

def blank : Memory := ⟨Vector.replicate 4096 0⟩

def get (m : Memory) (address : Int) : UInt8 := m.cells[(cell address).val]

def set (m : Memory) (address : Int) (b : UInt8) : Memory :=
  ⟨m.cells.set (cell address).val b (cell address).isLt⟩

theorem get_set (m : Memory) (a p : Int) (b : UInt8) :
    (m.set a b).get p = if cell a = cell p then b else m.get p := by
  simp only [get, set, Vector.getElem_set, Fin.ext_iff]

theorem get_emod (m : Memory) (a : Int) : m.get (a % 4096) = m.get a := by
  have hcell : cell (a % 4096) = cell a := by
    rw [cell_eq_iff]
    omega
  simp only [get, hcell]

theorem get_blank (p : Int) : blank.get p = 0 := by
  simp only [blank, get, Vector.getElem_replicate]

theorem ext_get {m n : Memory} (h : ∀ p, m.get p = n.get p) : m = n := by
  cases m with
  | mk cells =>
    cases n with
    | mk cells' =>
      congr 1
      apply Vector.ext
      intro i hi
      have hc : cell (i : Int) = ⟨i, hi⟩ := by
        apply Fin.ext
        simp only [cell]
        omega
      simpa only [get, hc] using h (i : Int)

/-- Consecutive bytes from an address on, written in order. -/
def write (m : Memory) (address : Int) : List UInt8 → Memory
  | [] => m
  | b :: rest => (m.set address b).write (address + 1) rest

/-- What lies at an address after a write that does not run into itself: the byte of the block that
falls there, or what was there before. -/
theorem get_write (m : Memory) (a p : Int) {bs : List UInt8} (h : bs.length ≤ 4096) :
    (m.write a bs).get p = (bs[((p - a) % 4096).toNat]?).getD (m.get p) := by
  induction bs generalizing m a with
  | nil => rfl
  | cons b rest ih =>
    have hrest : rest.length < 4096 := h
    have hcell := cell_eq_iff a p
    rw [write, ih _ _ (Nat.le_of_lt hrest), get_set]
    by_cases ha : cell a = cell p
    · -- the block has come round to its first byte, which the rest is too short to reach again
      have hmod := hcell.mp ha
      have hfirst : ((p - a) % 4096).toNat = 0 := by omega
      have hlast : rest.length ≤ ((p - (a + 1)) % 4096).toNat := by omega
      rw [if_pos ha, hfirst, List.getElem?_eq_none hlast]
      rfl
    · have hmod := mt hcell.mpr ha
      have hnext : ((p - a) % 4096).toNat = ((p - (a + 1)) % 4096).toNat + 1 := by omega
      rw [if_neg ha, hnext, List.getElem?_cons_succ]

theorem get_write_inside (m : Memory) (a : Int) {bs : List UInt8} (h : bs.length ≤ 4096) {j : Nat}
    {b : UInt8} (hj : bs[j]? = some b) : (m.write a bs).get (a + j) = b := by
  obtain ⟨hlt, -⟩ := List.getElem?_eq_some_iff.mp hj
  have hoffset : ((a + j - a) % 4096).toNat = j := by omega
  rw [get_write m a _ h, hoffset, hj]
  rfl

theorem get_write_outside (m : Memory) {a p : Int} {bs : List UInt8}
    (hp : ∀ j : Nat, j < bs.length → p % 4096 ≠ (a + j) % 4096) :
    (m.write a bs).get p = m.get p := by
  induction bs generalizing m a with
  | nil => rfl
  | cons b rest ih =>
    have hfirst : cell a ≠ cell p := by
      have hzero := hp 0 (Nat.zero_lt_succ _)
      rw [Ne, cell_eq_iff]
      omega
    have hrest : ∀ j : Nat, j < rest.length → p % 4096 ≠ (a + 1 + j) % 4096 := by
      intro j hj
      have hnext := hp (j + 1) (Nat.succ_lt_succ hj)
      omega
    rw [write, ih _ hrest, get_set, if_neg hfirst]

theorem write_append (m : Memory) (a : Int) (bs cs : List UInt8) :
    m.write a (bs ++ cs) = (m.write a bs).write (a + bs.length) cs := by
  induction bs generalizing m a with
  | nil => simp [write]
  | cons b rest ih =>
    have hend : a + 1 + (rest.length : Int) = a + ((b :: rest).length : Int) := by
      rw [List.length_cons]
      omega
    rw [List.cons_append, write, write, ih, hend]

def store (m : Memory) (address value : Int) : Memory := m.set address (byteOf value)

/-- The bytes from an address on; none if the length is negative. -/
def read (m : Memory) (address length : Int) : List UInt8 :=
  (List.range length.toNat).map fun (j : Nat) => m.get (address + j)

def word (m : Memory) (address : Int) : Word :=
  Word.ofBytes (m.get address) (m.get (address + 1))

theorem read_length (m : Memory) (address length : Int) :
    (m.read address length).length = length.toNat := by
  simp [read]

theorem read_getElem? (m : Memory) (address : Int) (n j : Nat) (h : j < n) :
    (m.read address n)[j]? = some (m.get (address + j)) := by
  simp [read, h]

def getValue (m : Memory) (address : Value) : Except OperandError UInt8 :=
  (address.bits "&").map m.get

def wordValue (m : Memory) (address : Value) : Except OperandError Word :=
  (address.bits "&").map m.word

/-- The low eight bits of a value stored where another stands for; the value is looked at first. -/
def storeValue (m : Memory) (address value : Value) : Except OperandError Memory :=
  match value.bits "&", address.bits "&" with
  | .error e, _ => .error e
  | .ok _, .error e => .error e
  | .ok n, .ok a => .ok (m.store a n)

/-- The bytes from the address that a value stands for, as many as another says; the address is not
looked at if there are none. -/
def readValue (m : Memory) (address length : Value) : Except OperandError (List UInt8) :=
  match length.count with
  | .error e => .error e
  | .ok n =>
    if n ≤ 0 then .ok []
    else
      match address.plus 0 with
      | .error e => .error e
      | .ok a => (a.bits "&").map fun k => m.read k n

/-- Values stored one after the other, up to the first that is refused. -/
def storeValues (m : Memory) (address : Value) (offset : Nat) :
    List Value → Memory × Option OperandError
  | [] => (m, none)
  | v :: rest =>
    match address.plus offset with
    | .error e => (m, some e)
    | .ok a =>
      match m.storeValue a v with
      | .error e => (m, some e)
      | .ok m' => storeValues m' address (offset + 1) rest

def writeValue (m : Memory) (address data : Value) : Memory × Option OperandError :=
  match data.items with
  | .error e => (m, some e)
  | .ok values => m.storeValues address 0 values

def reset (m : Memory) : Memory :=
  { m with cells := Vector.replicate 4096 0 }.write Layout.fontStart Layout.font

theorem reset_eq (m : Memory) : m.reset = blank.write Layout.fontStart Layout.font := rfl

def describe (_ : Memory) : String := "Memory(size=" ++ toString Layout.memorySize ++ ")"

end Memory

end Chip8
