import Chip8.Proofs.Carries
import Chip8.Proofs.Numbers
import Chip8.Proofs.Sprites

/-!
# No access fails

The numbers of a machine are followed through every instruction: each access that the machine in
plain numbers makes succeeds, and what it leaves is again the numbers of a machine. There is one
equation for each kind of access and, made from these, one for each handler.
-/

namespace Chip8

/-! ### Rows -/

theorem AccessError.ok_bind {α β : Type} (a : α) (f : α → Except AccessError β) :
    (Except.ok a >>= f) = f a := rfl

namespace Row

variable {α β : Type}

theorem ofPosition?_natCast {size k : Nat} (h : k < size) :
    Slot.ofPosition? size (k : Int) = some ⟨k, h⟩ := by
  have hsign : ¬(k : Int) < 0 := by omega
  have hrange : 0 ≤ (k : Int) ∧ (k : Int) < (size : Int) := by omega
  simp only [Slot.ofPosition?, hsign, if_false, dif_pos hrange, Int.toNat_natCast]

theorem get_map {size : Nat} (f : β → α) (row : Vector β size) {k : Nat} (h : k < size) :
    get (row.toList.map f) k = .ok (f row[k]) := by
  have hk : k < (row.toList.map f).length := by simpa using h
  rw [get, ofPosition?_natCast hk]
  simp

theorem put_map {size : Nat} (f : β → α) (row : Vector β size) {k : Nat} (h : k < size) (b : β) :
    put (row.toList.map f) k (f b) = .ok ((row.set k b h).toList.map f) := by
  have hk : k < (row.toList.map f).length := by simpa using h
  rw [put, ofPosition?_natCast hk]
  simp [Vector.toList_set, List.map_set]

theorem byte_toNat (b : UInt8) : byte (b.toNat : Int) = .ok (b.toNat : Int) := by
  have hb := b.toNat_lt
  exact if_pos ⟨by omega, by omega⟩

theorem putByte_map {size : Nat} (row : Vector UInt8 size) {k : Nat} (h : k < size) (b : UInt8) :
    putByte (ofBytes row.toList) k b.toNat = .ok (ofBytes (row.set k b h).toList) := by
  rw [putByte, byte_toNat]
  exact put_map (fun b : UInt8 => (b.toNat : Int)) row h b

theorem ofBytes_length {size : Nat} (row : Vector UInt8 size) :
    (ofBytes row.toList).length = size := by
  rw [ofBytes, List.length_map, Vector.length_toList]

theorem ofBytes_mem {bytes : List UInt8} {n : Int} (h : n ∈ ofBytes bytes) :
    0 ≤ n ∧ n ≤ 255 := by
  obtain ⟨b, -, rfl⟩ := List.mem_map.mp h
  have hb := b.toNat_lt
  omega

theorem ofBytes_zeros (size : Nat) :
    ofBytes (Vector.replicate size 0).toList = List.replicate size 0 := by
  rw [ofBytes, Vector.toList_replicate, List.map_replicate]
  rfl

end Row

namespace Frame

def numbers (f : Frame) : List Int := f.toList.map fun p => (p.toNat : Int)

theorem numbers_length (f : Frame) : f.numbers.length = 2048 := by
  rw [numbers, List.length_map, Vector.length_toList]

theorem numbers_dark : dark.numbers = List.replicate 2048 0 := by
  rw [numbers, dark, Vector.toList_replicate, List.map_replicate]
  rfl

theorem numbers_mem {f : Frame} {p : Int} (h : p ∈ f.numbers) : p = 0 ∨ p = 1 := by
  obtain ⟨lit, -, rfl⟩ := List.mem_map.mp h
  cases lit with
  | false => exact .inl rfl
  | true => exact .inr rfl

end Frame

/-! ### The numbers of a machine -/

namespace Machine

def numbers (m : Machine) : Numbers where
  memory := Row.ofBytes m.memory.cells.toList
  v := Row.ofBytes m.v.toList
  index := m.index
  pc := m.pc
  stack := m.stack
  delay := m.timers.delay.toNat
  sound := m.timers.sound.toNat
  pixels := m.display.frame.numbers
  dirty := m.display.dirty
  keys := m.keypad.held.toList
  noise := m.noise
  opcode := m.lastWord.toNat
  address := m.lastAddress
  clock := m.cycles
  waiting := m.waiting
  halted := m.halted
  frames := m.frames
  tones := m.tones
  faults := m.faults
  coupled := m.coupled

variable (m : Machine)

theorem numbers_x : m.numbers.x = (Word.x m.lastWord).val := by
  simp only [Numbers.x, numbers, Word.x]
  omega

theorem numbers_y : m.numbers.y = (Word.y m.lastWord).val := by
  simp only [Numbers.y, numbers, Word.y]
  omega

theorem numbers_n : m.numbers.n = (Word.n m.lastWord).val := by
  simp only [Numbers.n, numbers, Word.n]
  omega

theorem numbers_nn : m.numbers.nn = (Word.nn m.lastWord).toNat := by
  simp only [Numbers.nn, numbers, Word.nn_toNat]
  omega

theorem numbers_nnn : m.numbers.nnn = (Word.nnn m.lastWord).val := by
  simp only [Numbers.nnn, numbers, Word.nnn]
  omega

theorem numbers_reg (x : Reg) : m.numbers.reg x.val = .ok ((m.reg x).toNat : Int) :=
  Row.get_map (fun b : UInt8 => (b.toNat : Int)) m.v x.isLt

theorem numbers_setReg (x : Reg) {n : Int} {b : UInt8} (h : n = b.toNat) :
    m.numbers.setReg x.val n = .ok (m.setReg x b).numbers := by
  rw [h, Numbers.setReg, show m.numbers.v = Row.ofBytes m.v.toList from rfl,
    Row.putByte_map m.v x.isLt b]
  rfl

theorem numbers_cell (a : Int) : m.numbers.cell a = .ok ((m.memory.get a).toNat : Int) := by
  rw [Numbers.cell, ← cell_val]
  exact Row.get_map (fun b : UInt8 => (b.toNat : Int)) m.memory.cells (cell a).isLt

theorem toNat_emod (b : UInt8) : (b.toNat : Int) % 256 = b.toNat := by
  have hb := b.toNat_lt
  omega

theorem numbers_setCell (a : Int) {n : Int} {b : UInt8} (h : n = b.toNat) :
    m.numbers.setCell a n = .ok { m with memory := m.memory.set a b }.numbers := by
  rw [h, Numbers.setCell, ← cell_val, toNat_emod,
    show m.numbers.memory = Row.ofBytes m.memory.cells.toList from rfl,
    Row.putByte_map m.memory.cells (cell a).isLt]
  rfl

theorem numbers_isKeyDown (key : Fin 16) {n : Int} (h : n = key.val) :
    m.numbers.isKeyDown n = .ok (m.keypad.isDown key) := by
  have hkey := key.isLt
  rw [h, Numbers.isKeyDown, if_pos ⟨by omega, by omega⟩]
  have hget := Row.get_map id m.keypad.held hkey
  rwa [List.map_id] at hget

theorem numbers_skipIf (condition : Bool) :
    m.numbers.skipIf condition = (m.skipIf condition).numbers := by
  cases condition <;> rfl

/-! ### Instructions without a loop -/

/- What an instruction leaves behind, the fault that it causes included. -/
def settle (i : Instruction) : Machine :=
  match i.effect m with
  | .ok n => n
  | .error kind => m.record ⟨kind, m.lastAddress, m.lastWord.toNat, m.cycles⟩

def Computes (handler : Numbers.Handler) (i : Instruction) : Prop :=
  handler m.numbers = .ok (m.settle i).numbers

theorem numbers_report (kind : FaultKind) : m.numbers.report kind =
    (m.record ⟨kind, m.lastAddress, m.lastWord.toNat, m.cycles⟩).numbers := by
  simp only [Numbers.report, numbers, record]

theorem toNat_eq_iff (a b : UInt8) : (a.toNat : Int) = b.toNat ↔ a = b := by
  rw [Int.ofNat_inj, UInt8.toNat_inj]

theorem computes_clear : m.Computes Numbers.clear .clear := by
  have hlength : m.numbers.pixels.length = 2048 := m.display.frame.numbers_length
  rw [Computes, Numbers.clear, hlength, ← Frame.numbers_dark]
  rfl

theorem computes_ret : m.Computes Numbers.ret .ret := by
  have hstack : m.numbers.stack = m.stack := rfl
  simp only [Computes, Numbers.ret, settle, Instruction.effect, hstack]
  cases m.stack with
  | nil => exact congrArg Except.ok (m.numbers_report .stackUnderflow)
  | cons address rest => rfl

theorem computes_jump : m.Computes Numbers.jump (.jump (Word.nnn m.lastWord)) := by
  simp only [Computes, Numbers.jump, numbers_nnn]
  rfl

theorem computes_call : m.Computes Numbers.call (.call (Word.nnn m.lastWord)) := by
  by_cases hfull : Layout.stackDepth ≤ m.stack.length
  · have hnumbers : 16 ≤ m.numbers.stack.length := hfull
    simp only [Computes, Numbers.call, settle, Instruction.effect, if_pos hfull, if_pos hnumbers]
    exact congrArg Except.ok (m.numbers_report .stackOverflow)
  · have hnumbers : ¬16 ≤ m.numbers.stack.length := hfull
    simp only [Computes, Numbers.call, settle, Instruction.effect, if_neg hfull, if_neg hnumbers,
      numbers_nnn]
    rfl

theorem numbers_compareByte (wanted : Bool) : Numbers.compareByte wanted m.numbers =
    .ok (m.skipIf ((m.reg (Word.x m.lastWord) = Word.nn m.lastWord) == wanted)).numbers := by
  simp only [Numbers.compareByte, numbers_x, numbers_reg, AccessError.ok_bind, numbers_nn,
    toNat_eq_iff, numbers_skipIf]
  rfl

theorem numbers_compareRegister (wanted : Bool) : Numbers.compareRegister wanted m.numbers =
    .ok (m.skipIf ((m.reg (Word.x m.lastWord) = m.reg (Word.y m.lastWord)) == wanted)).numbers := by
  simp only [Numbers.compareRegister, numbers_x, numbers_y, numbers_reg, AccessError.ok_bind,
    toNat_eq_iff, numbers_skipIf]
  rfl

theorem computes_skipIfByte : m.Computes (Numbers.compareByte true)
    (.skipIfByte (Word.x m.lastWord) (Word.nn m.lastWord)) := by
  rw [Computes, numbers_compareByte, beq_true]
  rfl

theorem computes_skipUnlessByte : m.Computes (Numbers.compareByte false)
    (.skipUnlessByte (Word.x m.lastWord) (Word.nn m.lastWord)) := by
  rw [Computes, numbers_compareByte, beq_false, ← decide_not]
  rfl

theorem computes_skipIfEqual : m.Computes (Numbers.compareRegister true)
    (.skipIfEqual (Word.x m.lastWord) (Word.y m.lastWord)) := by
  rw [Computes, numbers_compareRegister, beq_true]
  rfl

theorem computes_skipUnlessEqual : m.Computes (Numbers.compareRegister false)
    (.skipUnlessEqual (Word.x m.lastWord) (Word.y m.lastWord)) := by
  rw [Computes, numbers_compareRegister, beq_false, ← decide_not]
  rfl

theorem computes_loadByte :
    m.Computes Numbers.loadByte (.loadByte (Word.x m.lastWord) (Word.nn m.lastWord)) := by
  rw [Computes, Numbers.loadByte, numbers_x]
  exact m.numbers_setReg _ m.numbers_nn

theorem computes_addByte :
    m.Computes Numbers.addByte (.addByte (Word.x m.lastWord) (Word.nn m.lastWord)) := by
  rw [Computes, Numbers.addByte, numbers_x, numbers_reg, numbers_nn]
  refine m.numbers_setReg _ ?_
  rw [UInt8.toNat_add]
  omega

theorem computes_setIndex : m.Computes Numbers.setIndex (.setIndex (Word.nnn m.lastWord)) := by
  simp only [Computes, Numbers.setIndex, numbers_nnn]
  rfl

theorem computes_jumpFrom : m.Computes Numbers.jumpFrom (.jumpFrom (Word.nnn m.lastWord)) := by
  have hreg : m.numbers.reg 0 = .ok ((m.reg 0).toNat : Int) := m.numbers_reg 0
  simp only [Computes, Numbers.jumpFrom, numbers_nnn, hreg]
  rfl

theorem computes_random :
    m.Computes Numbers.random (.random (Word.x m.lastWord) (Word.nn m.lastWord)) := by
  rw [Computes, Numbers.random, numbers_x, numbers_nn]
  refine { m with noise := m.noise.draw.2 }.numbers_setReg _ ?_
  rw [UInt8.toNat_and]
  rfl

theorem numbers_checkKey (wanted : Bool) : Numbers.checkKey wanted m.numbers =
    .ok (m.skipIf (m.keypad.isDown ⟨(m.reg (Word.x m.lastWord)).toNat % 16, m.reg_mod_lt _⟩ ==
      wanted)).numbers := by
  have hkey : ((m.reg (Word.x m.lastWord)).toNat : Int) % 16 =
      ((m.reg (Word.x m.lastWord)).toNat % 16 : Nat) := by omega
  rw [Numbers.checkKey, numbers_x, numbers_reg, AccessError.ok_bind,
    m.numbers_isKeyDown ⟨_, m.reg_mod_lt (Word.x m.lastWord)⟩ hkey, AccessError.ok_bind,
    numbers_skipIf]
  rfl

theorem computes_skipIfKey :
    m.Computes (Numbers.checkKey true) (.skipIfKey (Word.x m.lastWord)) := by
  rw [Computes, numbers_checkKey, beq_true]
  rfl

theorem computes_skipUnlessKey :
    m.Computes (Numbers.checkKey false) (.skipUnlessKey (Word.x m.lastWord)) := by
  rw [Computes, numbers_checkKey, beq_false]
  rfl

theorem computes_readDelay : m.Computes Numbers.readDelay (.readDelay (Word.x m.lastWord)) := by
  rw [Computes, Numbers.readDelay, numbers_x]
  exact m.numbers_setReg _ rfl

theorem findIdx?_held (k : Keypad) :
    k.held.toList.findIdx? id = k.lowest?.map fun key => key.val := by
  cases hlow : k.lowest? with
  | none =>
    have hall : ∀ key, k.isDown key = false := by
      intro key
      simpa using List.find?_eq_none.mp hlow key (List.mem_finRange key)
    rw [Option.map_none, List.findIdx?_eq_none_iff]
    intro down hmem
    obtain ⟨i, hi, rfl⟩ := List.getElem_of_mem hmem
    exact hall ⟨i, by simpa using hi⟩
  | some key =>
    obtain ⟨hdown, i, hi, hkey, hbelow⟩ := List.find?_eq_some_iff_getElem.mp hlow
    have hval : i = key.val := by simp [← hkey]
    subst hval
    rw [Option.map_some, List.findIdx?_eq_some_iff_getElem]
    refine ⟨by simp, by simpa [Keypad.isDown] using hdown, ?_⟩
    intro j hj
    simpa [Keypad.isDown] using hbelow j hj

theorem computes_awaitKey : m.Computes Numbers.awaitKey (.awaitKey (Word.x m.lastWord)) := by
  have hkeys : m.numbers.keys.findIdx? id = m.keypad.lowest?.map fun key => key.val :=
    findIdx?_held m.keypad
  simp only [Computes, Numbers.awaitKey, settle, Instruction.effect, hkeys, numbers_x]
  cases hlow : m.keypad.lowest? with
  | none => rfl
  | some key =>
    have hkey := key.isLt
    have hbyte : (key.val : Int) = (UInt8.ofNat key.val).toNat := by
      rw [UInt8.toNat_ofNat']
      omega
    simp only [Option.map_some]
    rw [m.numbers_setReg _ hbyte]
    rfl

theorem computes_setDelay : m.Computes Numbers.setDelay (.setDelay (Word.x m.lastWord)) := by
  simp only [Computes, Numbers.setDelay, numbers_x, numbers_reg, AccessError.ok_bind, toNat_emod]
  rfl

theorem computes_setSound : m.Computes Numbers.setSound (.setSound (Word.x m.lastWord)) := by
  simp only [Computes, Numbers.setSound, numbers_x, numbers_reg, AccessError.ok_bind, toNat_emod]
  rfl

theorem computes_addIndex : m.Computes Numbers.addIndex (.addIndex (Word.x m.lastWord)) := by
  simp only [Computes, Numbers.addIndex, numbers_x, numbers_reg]
  rfl

theorem computes_glyph : m.Computes Numbers.glyph (.glyph (Word.x m.lastWord)) := by
  have hstart : (Layout.fontStart : Int) = 0 := rfl
  simp only [Computes, Numbers.glyph, numbers_x, numbers_reg, AccessError.ok_bind, hstart,
    Int.zero_add]
  rfl

/-! ### Operators -/

theorem numbers_setWithFlag {result f : Int} {b g : UInt8} (hr : result % 256 = b.toNat)
    (hf : f = g.toNat) : m.numbers.setWithFlag result f =
      .ok ((m.setReg flag g).setReg (Word.x m.lastWord) b).numbers := by
  have hflag : m.numbers.setReg 15 f = .ok (m.setReg flag g).numbers := m.numbers_setReg flag hf
  have hx : (m.setReg flag g).numbers.x = (Word.x m.lastWord).val := numbers_x _
  rw [Numbers.setWithFlag, hflag, AccessError.ok_bind, hx]
  exact (m.setReg flag g).numbers_setReg _ hr

variable {m}

theorem computes_combine {f : Int → Int → Int} {op : Operator} {g : UInt8 → UInt8 → UInt8}
    (hop : ∀ a b, op.apply a b = (g a b, none))
    (hf : ∀ a b : UInt8, f a.toNat b.toNat = (g a b).toNat) :
    m.Computes (Numbers.combine f) (.operate op (Word.x m.lastWord) (Word.y m.lastWord)) := by
  simp only [Computes, Numbers.combine, numbers_x, numbers_y, numbers_reg, AccessError.ok_bind,
    settle, Instruction.effect, operate, hop]
  exact m.numbers_setReg _ (hf _ _)

theorem computes_compute {f : Int → Int → Int × Int} {op : Operator}
    {g h : UInt8 → UInt8 → UInt8} (hop : ∀ a b, op.apply a b = (g a b, some (h a b)))
    (hg : ∀ a b : UInt8, (f a.toNat b.toNat).1 % 256 = (g a b).toNat)
    (hh : ∀ a b : UInt8, (f a.toNat b.toNat).2 = (h a b).toNat) :
    m.Computes (Numbers.compute f) (.operate op (Word.x m.lastWord) (Word.y m.lastWord)) := by
  simp only [Computes, Numbers.compute, numbers_x, numbers_y, numbers_reg, AccessError.ok_bind,
    settle, Instruction.effect, operate, hop]
  exact m.numbers_setWithFlag (hg _ _) (hh _ _)

theorem computes_shift {f : Int → Int × Int} {op : Operator} {g h : UInt8 → UInt8}
    (hop : ∀ a b, op.apply a b = (g a, some (h a)))
    (hg : ∀ a : UInt8, (f a.toNat).1 % 256 = (g a).toNat)
    (hh : ∀ a : UInt8, (f a.toNat).2 = (h a).toNat) :
    m.Computes (Numbers.shift f) (.operate op (Word.x m.lastWord) (Word.y m.lastWord)) := by
  simp only [Computes, Numbers.shift, numbers_x, numbers_reg, AccessError.ok_bind, settle,
    Instruction.effect, operate, hop]
  exact m.numbers_setWithFlag (hg _) (hh _)

theorem sub_emod (a b : UInt8) : ((a.toNat : Int) - b.toNat) % 256 = (a - b).toNat := by
  have ha := (a - b).toNat_lt
  have hdifference := Operator.difference_bytes a b
  omega

theorem sub_flag (a b : UInt8) : (if (b.toNat : Int) ≤ a.toNat then 1 else 0 : Int) =
    (Operator.flagOf (b ≤ a)).toNat := by
  rw [Operator.flagOf_toNat]
  simp only [decide_eq_true_eq, UInt8.le_iff_toNat_le]
  split <;> split <;> omega

/- The handler that the table has for an operator. -/
theorem computes_operator (op : Operator) : ∃ handler,
    Numbers.operatorTable.lookup (op.code.val : Int) = some handler ∧
      m.Computes handler (.operate op (Word.x m.lastWord) (Word.y m.lastWord)) := by
  cases op with
  | copy =>
    refine ⟨_, rfl, ?_⟩
    simp only [Computes, Numbers.copy, numbers_x, numbers_y, numbers_reg, AccessError.ok_bind]
    exact m.numbers_setReg _ rfl
  | or =>
    refine ⟨_, rfl, computes_combine (fun _ _ => rfl) ?_⟩
    intro a b
    rw [UInt8.toNat_or]
    rfl
  | and =>
    refine ⟨_, rfl, computes_combine (fun _ _ => rfl) ?_⟩
    intro a b
    rw [UInt8.toNat_and]
    rfl
  | xor =>
    refine ⟨_, rfl, computes_combine (fun _ _ => rfl) ?_⟩
    intro a b
    rw [UInt8.toNat_xor]
    rfl
  | add =>
    refine ⟨_, rfl, computes_compute (fun _ _ => rfl) ?_ ?_⟩
    · intro a b
      rw [UInt8.toNat_add]
      omega
    · intro a b
      rw [Operator.flagOf_toNat]
      simp only [decide_eq_true_eq]
      split <;> split <;> omega
  | sub => exact ⟨_, rfl, computes_compute (fun _ _ => rfl) sub_emod sub_flag⟩
  | subFrom =>
    exact ⟨_, rfl, computes_compute (fun _ _ => rfl) (fun a b => sub_emod b a)
      (fun a b => sub_flag b a)⟩
  | shiftRight =>
    refine ⟨_, rfl, computes_shift (fun _ _ => rfl) ?_ ?_⟩
    · intro a
      have ha := a.toNat_lt
      have hhalf := Operator.half_byte a
      omega
    · intro a
      have hhalf := Operator.half_byte a
      omega
  | shiftLeft =>
    refine ⟨_, rfl, computes_shift (fun _ _ => rfl) ?_ ?_⟩
    · intro a
      have hlow := (a <<< 1).toNat_lt
      have hdouble := Operator.double_byte a
      omega
    · intro a
      have ha := a.toNat_lt
      have hlow := (a <<< 1).toNat_lt
      have hdouble := Operator.double_byte a
      omega

variable (m)

/-! ### Blocks of memory -/

theorem computes_digits : m.Computes Numbers.digits (.digits (Word.x m.lastWord)) := by
  have hb := (m.reg (Word.x m.lastWord)).toNat_lt
  generalize hbyte : m.reg (Word.x m.lastWord) = b at hb
  have hfirst : (b.toNat : Int) / 100 = (b / 100).toNat := by
    rw [UInt8.toNat_div]
    exact (Int.natCast_div _ _).symm
  have hsecond : (b.toNat : Int) / 10 % 10 = (b / 10 % 10).toNat := by
    rw [UInt8.toNat_mod, UInt8.toNat_div, Int.natCast_mod, Int.natCast_div]
    rfl
  have hthird : (b.toNat : Int) % 10 = (b % 10).toNat := by
    rw [UInt8.toNat_mod]
    exact (Int.natCast_mod _ _).symm
  have hnext (a : Int) : a + 1 + 1 = a + 2 := by omega
  simp only [Computes, Numbers.digits, numbers_x, numbers_reg, hbyte, AccessError.ok_bind]
  rw [m.numbers_setCell _ hfirst, AccessError.ok_bind, numbers_setCell _ _ hsecond,
    AccessError.ok_bind, numbers_setCell _ _ hthird]
  simp only [settle, Instruction.effect, hbyte, decimals, Memory.write, hnext]
  rfl

theorem numbers_saveLoop {k : Nat} (hk : k ≤ 16) :
    (List.range k).foldlM (fun s (r : Nat) => do
      let a ← s.reg r
      s.setCell (s.index + r) a) m.numbers =
    .ok { m with memory := m.memory.write m.index (m.v.toList.take k) }.numbers := by
  induction k with
  | zero => rfl
  | succ k ih =>
    have hlt : k < 16 := hk
    have htake : m.v.toList.take (k + 1) = m.v.toList.take k ++ [m.v[k]] := by
      rw [List.take_add_one, List.getElem?_eq_getElem (by simpa using hlt)]
      simp
    have hlength : ((m.v.toList.take k).length : Int) = k := by
      rw [List.length_take, Vector.length_toList]
      omega
    rw [List.range_succ, List.foldlM_append, ih (Nat.le_of_lt hlt), AccessError.ok_bind,
      List.foldlM_cons, numbers_reg _ ⟨k, hlt⟩, AccessError.ok_bind,
      numbers_setCell _ _ rfl, AccessError.ok_bind, htake, Memory.write_append, hlength]
    rfl

theorem numbers_restoreLoop {k : Nat} (hk : k ≤ 16) :
    (List.range k).foldlM (fun s (r : Nat) => do
      let a ← s.cell (s.index + r)
      s.setReg r a) m.numbers =
    .ok { m with v := Vector.ofFn fun r : Fin 16 =>
      if r.val < k then m.memory.get (m.index + r.val) else m.reg r }.numbers := by
  induction k with
  | zero =>
    have hsame : (Vector.ofFn fun r : Fin 16 =>
        if r.val < 0 then m.memory.get (m.index + r.val) else m.reg r) = m.v := by
      ext i hi
      simp [reg]
    rw [hsame]
    rfl
  | succ k ih =>
    have hlt : k < 16 := hk
    have hnext : (Vector.ofFn fun r : Fin 16 =>
          if r.val < k then m.memory.get (m.index + r.val) else m.reg r).set k
          (m.memory.get (m.index + k)) hlt =
        Vector.ofFn fun r : Fin 16 =>
          if r.val < k + 1 then m.memory.get (m.index + r.val) else m.reg r := by
      ext i hi
      rw [Vector.getElem_set, Vector.getElem_ofFn, Vector.getElem_ofFn]
      by_cases hki : k = i
      · subst hki
        rw [if_pos rfl, if_pos (Nat.lt_succ_self k)]
      · have hiff : i < k ↔ i < k + 1 := by omega
        rw [if_neg hki, if_congr hiff rfl rfl]
    rw [List.range_succ, List.foldlM_append, ih (Nat.le_of_lt hlt), AccessError.ok_bind,
      List.foldlM_cons, numbers_cell, AccessError.ok_bind, numbers_setReg _ ⟨k, hlt⟩ rfl,
      AccessError.ok_bind, ← hnext]
    rfl

theorem numbers_stepIndex : m.numbers.stepIndex =
    { m with index := wrap (m.index + (Word.x m.lastWord).val + 1) }.numbers := by
  rw [Numbers.stepIndex, numbers_x]
  rfl

theorem computes_save : m.Computes Numbers.save (.save (Word.x m.lastWord)) := by
  have hx := (Word.x m.lastWord).isLt
  rw [Computes, Numbers.save, numbers_x, Int.toNat_natCast, m.numbers_saveLoop hx,
    AccessError.ok_bind, numbers_stepIndex]
  rfl

theorem computes_restore : m.Computes Numbers.restore (.restore (Word.x m.lastWord)) := by
  have hx := (Word.x m.lastWord).isLt
  have hregisters : (Vector.ofFn fun r : Fin 16 =>
        if r.val < (Word.x m.lastWord).val + 1 then m.memory.get (m.index + r.val) else m.reg r) =
      Vector.ofFn fun r : Fin 16 =>
        if r.val ≤ (Word.x m.lastWord).val then m.memory.get (m.index + r.val) else m.reg r := by
    ext i hi
    simp only [Vector.getElem_ofFn, Nat.lt_succ_iff]
  rw [Computes, Numbers.restore, numbers_x, Int.toNat_natCast, m.numbers_restoreLoop hx,
    AccessError.ok_bind, numbers_stepIndex, hregisters]
  rfl

/-! ### Drawing -/

end Machine

theorem Memory.read_succ (mem : Memory) (a : Int) (k : Nat) :
    mem.read a (k + 1 : Nat) = mem.get a :: mem.read (a + 1) k := by
  have hnext (j : Nat) : a + ((j + 1 : Nat) : Int) = a + 1 + j := by omega
  simp only [Memory.read, Int.toNat_natCast, List.range_succ_eq_map, List.map_cons, List.map_map,
    Function.comp_def, hnext, Int.natCast_zero, Int.add_zero]

namespace Frame

theorem position_place (x y : Int) : y % 32 * 64 + x % 64 = ((place x y).val : Int) := by
  simp only [place]
  omega

theorem plot_numbers (f : Frame) (k : Fin 2048) :
    Numbers.plot f.numbers k.val = .ok ((f.flip k).numbers, f.get k) := by
  have hget : Row.get f.numbers k.val = .ok ((f.get k).toNat : Int) :=
    Row.get_map (fun p : Bool => (p.toNat : Int)) f k.isLt
  have hput : Row.put f.numbers k.val ((!f.get k).toNat : Int) = .ok (f.flip k).numbers :=
    Row.put_map (fun p : Bool => (p.toNat : Int)) f k.isLt _
  have hbyte : Row.byte (Int.xor (f.get k).toNat 1) = .ok ((!f.get k).toNat : Int) := by
    cases f.get k <;> rfl
  rw [Numbers.plot, hget, AccessError.ok_bind, Row.putByte, hbyte, AccessError.ok_bind, hput,
    AccessError.ok_bind]
  cases f.get k <;> rfl

theorem shiftRight_odd (row : UInt8) (k : Nat) :
    ((row.toNat : Int) >>> k) % 2 = 1 ↔ row.toNat.testBit k = true := by
  have hcast : (row.toNat : Int) >>> k = ((row.toNat >>> k : Nat) : Int) := rfl
  rw [hcast, Nat.shiftRight_eq_div_pow, Nat.testBit_eq_decide_div_mod_eq, decide_eq_true_eq]
  omega

theorem plotRow_numbers (f : Frame) (x y : Int) (row : UInt8) (columns : List Nat) (hit : Bool) :
    Numbers.plotRow x (y % 32 * 64) row.toNat columns (f.numbers, hit) =
      let r := f.flipAll ((columns.filter fun c => row.toNat.testBit (7 - c)).map fun (c : Nat) =>
        place (x + c) y)
      .ok (r.1.numbers, hit || r.2) := by
  induction columns generalizing f hit with
  | nil => simp [Numbers.plotRow, flipAll, pure, Except.pure]
  | cons c rest ih =>
    by_cases hbit : row.toNat.testBit (7 - c) = true
    · rw [Numbers.plotRow, if_pos ((shiftRight_odd row _).mpr hbit), position_place, plot_numbers,
        AccessError.ok_bind, ih, List.filter_cons, if_pos hbit, List.map_cons, flipAll]
      simp only [Bool.or_assoc]
      rfl
    · rw [Numbers.plotRow, if_neg (mt (shiftRight_odd row _).mp hbit), ih, List.filter_cons,
        if_neg hbit]

theorem plotRows_numbers (f : Frame) (x y : Int) (rows : List UInt8) (hit : Bool) :
    Numbers.plotRows x y (Row.ofBytes rows) (f.numbers, hit) =
      .ok ((f.flipAll (places x y rows)).1.numbers, hit || (f.flipAll (places x y rows)).2) := by
  induction rows generalizing f y hit with
  | nil => simp [Numbers.plotRows, Row.ofBytes, places, flipAll, pure, Except.pure]
  | cons row rest ih =>
    rw [Row.ofBytes, List.map_cons, Numbers.plotRows, plotRow_numbers, AccessError.ok_bind]
    show Numbers.plotRows x (y + 1) (Row.ofBytes rest) _ = _
    rw [ih, places, flipAll_append, Bool.or_assoc]
    rfl

end Frame

namespace Machine

variable (m : Machine)

theorem numbers_readBlock (a : Int) (k : Nat) :
    m.numbers.readBlock a k = .ok (Row.ofBytes (m.memory.read a k)) := by
  induction k generalizing a with
  | zero => rfl
  | succ k ih =>
    rw [Numbers.readBlock, numbers_cell, AccessError.ok_bind, Row.byte_toNat, AccessError.ok_bind,
      ih, AccessError.ok_bind, Memory.read_succ]
    rfl

theorem computes_draw : m.Computes Numbers.draw
    (.draw (Word.x m.lastWord) (Word.y m.lastWord) (Word.n m.lastWord)) := by
  have hpixels : m.numbers.pixels = m.display.frame.numbers := rfl
  rw [Computes, Numbers.draw, numbers_n, Int.toNat_natCast, numbers_readBlock, AccessError.ok_bind,
    numbers_x, numbers_reg, AccessError.ok_bind, numbers_y, numbers_reg, AccessError.ok_bind,
    hpixels, Frame.plotRows_numbers, AccessError.ok_bind]
  let r := m.display.draw (m.reg (Word.x m.lastWord)).toNat (m.reg (Word.y m.lastWord)).toNat
    (m.memory.read m.index (Word.n m.lastWord).val)
  have hflag : (if r.2 then 1 else 0 : Int) = (Operator.flagOf r.2).toNat := by
    cases r.2 <;> rfl
  exact { m with display := r.1 }.numbers_setReg flag hflag

end Machine

end Chip8
