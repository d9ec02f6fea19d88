import Chip8.Machine.Load
import Chip8.Proofs.Effects

/-!
# Carries and borrows

The arithmetic instructions spread an exact result over two registers: the low eight bits go to
`Vx`, and the flag says what they leave out, the carry of a sum, the absence of a borrow in a
difference, or the bit that a shift pushes out. The operands are read before anything is written, so
the flag may be an operand; it is written before the result, so a result in the flag's own register
replaces it.
-/

namespace Chip8

open Instruction (decode?)
open Word (ofDigits)

/-! ### Bytes -/

namespace Operator

theorem flagOf_toNat (c : Bool) : (flagOf c).toNat = if c then 1 else 0 := by
  cases c <;> rfl

theorem sum_bytes (a b : UInt8) :
    (a + b).toNat + 256 * (flagOf (255 < a.toNat + b.toNat)).toNat = a.toNat + b.toNat := by
  have ha := a.toNat_lt
  have hb := b.toNat_lt
  simp only [UInt8.toNat_add, flagOf_toNat, decide_eq_true_eq]
  split <;> omega

theorem difference_bytes (a b : UInt8) :
    ((a - b).toNat : Int) = a.toNat - b.toNat + 256 * (1 - (flagOf (b ≤ a)).toNat) := by
  have ha := a.toNat_lt
  have hb := b.toNat_lt
  simp only [UInt8.toNat_sub, flagOf_toNat, decide_eq_true_eq, UInt8.le_iff_toNat_le]
  split <;> omega

theorem half_byte (a : UInt8) :
    a.toNat = 2 * (a >>> 1).toNat + (a &&& 1).toNat ∧ (a &&& 1).toNat ≤ 1 := by
  have hhalf : (a >>> 1).toNat = a.toNat / 2 := by
    rw [UInt8.toNat_shiftRight]
    exact Nat.shiftRight_eq_div_pow a.toNat 1
  have hlow : (a &&& 1).toNat = a.toNat % 2 := by
    rw [UInt8.toNat_and]
    exact Nat.and_one_is_mod a.toNat
  omega

theorem double_byte (a : UInt8) : (a <<< 1).toNat + 256 * (a >>> 7).toNat = 2 * a.toNat := by
  have ha := a.toNat_lt
  have hdouble : (a <<< 1).toNat = a.toNat * 2 % 256 := by
    rw [UInt8.toNat_shiftLeft]
    exact congrArg (· % 256) (Nat.shiftLeft_eq a.toNat 1)
  have hhigh : (a >>> 7).toNat = a.toNat / 128 := by
    rw [UInt8.toNat_shiftRight]
    exact Nat.shiftRight_eq_div_pow a.toNat 7
  omega

end Operator

namespace Machine

/-! ### Registers -/

/- A register's value as an integer. -/
def value (m : Machine) (r : Reg) : Int := (m.reg r).toNat

theorem value_bounds (m : Machine) (r : Reg) : 0 ≤ m.value r ∧ m.value r ≤ 255 := by
  have hr := (m.reg r).toNat_lt
  simp only [value]
  omega

theorem execute_operate {m : Machine} {op : Operator} {x y : Reg} {b f : UInt8}
    (h : m.nextWord = ofDigits 0x8 x y op.code)
    (happly : op.apply (m.reg x) (m.reg y) = (b, some f)) (r : Reg) :
    m.execute.1.reg r = if x = r then b else if 0xF = r then f else m.reg r := by
  have hi : decode? m.nextWord = some (.operate op x y) := by
    rw [h]
    exact Instruction.decode?_encode (.operate op x y)
  have hoperate : m.fetch.operate op x y = (m.fetch.setReg flag f).setReg x b := by
    have hfetch : op.apply (m.fetch.reg x) (m.fetch.reg y) = (b, some f) := happly
    simp only [operate, hfetch]
  have hafter : m.execute.1 = ((m.fetch.setReg flag f).setReg x b).count := by
    rw [execute_eq_carryOut hi, ← hoperate]
    rfl
  rw [hafter]
  show ((m.fetch.setReg flag f).setReg x b).reg r = _
  rw [reg_setReg, reg_setReg]
  rfl

/- How an exact result is spread over `Vx` and the flag. -/
structure Settles (m : Machine) (x : Reg) (total : Int) (balance : Int → Int → Prop)
    (n : Machine) : Prop where
  balanced : x ≠ 0xF → balance (n.value x) (n.value 0xF)
  bit : x ≠ 0xF → n.value 0xF = 0 ∨ n.value 0xF = 1
  byte : 0 ≤ n.value x ∧ n.value x ≤ 255
  overwritten : x = 0xF → n.value 0xF = total % 256
  others : ∀ r, r ≠ x → r ≠ 0xF → n.reg r = m.reg r

theorem settles_of_apply {m : Machine} (op : Operator) {x y : Reg} {b f : UInt8} {total : Int}
    {balance : Int → Int → Prop} (h : m.nextWord = ofDigits 0x8 x y op.code)
    (happly : op.apply (m.reg x) (m.reg y) = (b, some f)) (hbit : f.toNat ≤ 1)
    (htotal : total % 256 = (b.toNat : Int) % 256) (hbalance : balance b.toNat f.toNat) :
    Settles m x total balance m.execute.1 := by
  have hregs := execute_operate h happly
  have hresult : m.execute.1.value x = b.toNat := by
    rw [value, hregs, if_pos rfl]
  have hflag (hx : x ≠ 0xF) : m.execute.1.value 0xF = f.toNat := by
    rw [value, hregs, if_neg hx, if_pos rfl]
  refine ⟨?_, ?_, value_bounds _ x, ?_, ?_⟩
  · intro hx
    rw [hresult, hflag hx]
    exact hbalance
  · intro hx
    rw [hflag hx]
    omega
  · rintro rfl
    have hb := b.toNat_lt
    rw [hresult]
    omega
  · intro r hrx hrf
    rw [hregs, if_neg hrx.symm, if_neg hrf.symm]

/-- Unless `x` is the flag, the result in `Vx` and the flag together hold the exact sum, difference
or shifted value of what the registers held before, also if they are one register or the flag is an
operand. If `x` is the flag, it holds the result modulo 256. No other register changes. -/
theorem arithmetic_exact (m : Machine) (x y : Reg) :
    (m.nextWord = ofDigits 0x8 x y 0x4 → Settles m x (m.value x + m.value y)
      (fun result carry => result + 256 * carry = m.value x + m.value y) m.execute.1) ∧
    (m.nextWord = ofDigits 0x8 x y 0x5 → Settles m x (m.value x - m.value y)
      (fun result whole => result = m.value x - m.value y + 256 * (1 - whole)) m.execute.1) ∧
    (m.nextWord = ofDigits 0x8 x y 0x7 → Settles m x (m.value y - m.value x)
      (fun result whole => result = m.value y - m.value x + 256 * (1 - whole)) m.execute.1) ∧
    (m.nextWord = ofDigits 0x8 x y 0x6 → Settles m x (m.value x / 2)
      (fun result low => m.value x = 2 * result + low) m.execute.1) ∧
    (m.nextWord = ofDigits 0x8 x y 0xE → Settles m x (2 * m.value x)
      (fun result high => result + 256 * high = 2 * m.value x) m.execute.1) := by
  have hx : m.value x = (m.reg x).toNat := rfl
  have hy : m.value y = (m.reg y).toNat := rfl
  have hvx := (m.reg x).toNat_lt
  have hvy := (m.reg y).toNat_lt
  refine ⟨?_, ?_, ?_, ?_, ?_⟩
  · intro h
    have hsum := Operator.sum_bytes (m.reg x) (m.reg y)
    exact settles_of_apply .add h rfl (by omega) (by omega) (by omega)
  · intro h
    have hdifference := Operator.difference_bytes (m.reg x) (m.reg y)
    exact settles_of_apply .sub h rfl (by omega) (by omega) (by omega)
  · intro h
    have hdifference := Operator.difference_bytes (m.reg y) (m.reg x)
    exact settles_of_apply .subFrom h rfl (by omega) (by omega) (by omega)
  · intro h
    obtain ⟨hhalf, hlow⟩ := Operator.half_byte (m.reg x)
    exact settles_of_apply .shiftRight h rfl hlow (by omega) (by omega)
  · intro h
    have hdouble := Operator.double_byte (m.reg x)
    exact settles_of_apply .shiftLeft h rfl (by omega) (by omega) (by omega)

/- The flag added to itself: 200 and 200 are 400. -/
def flagDoubled : Machine :=
  ((powerOn ⟨fun _ => 0, 0⟩ false).place [0x8F, 0xF4]).setReg flag 200

theorem flagDoubled_word : flagDoubled.nextWord = ofDigits 0x8 0xF 0xF 0x4 :=
  nextWord_place _ _ 0x8F 0xF4

theorem flagDoubled_exact :
    flagDoubled.nextWord = ofDigits 0x8 0xF 0xF 0x4 ∧ flagDoubled.execute.1.value 0xF = 144 := by
  have hsum := (arithmetic_exact flagDoubled 0xF 0xF).1 flagDoubled_word
  have hvalue : flagDoubled.value 0xF = 200 := by decide
  refine ⟨flagDoubled_word, ?_⟩
  rw [hsum.overwritten rfl, hvalue]
  rfl

end Machine

end Chip8
