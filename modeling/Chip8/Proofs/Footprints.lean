import Chip8.Proofs.Effects
import Chip8.Proofs.InstructionSet

/-!
# Footprints

Which parts of a machine a word can change when it is executed, told from the digits of the word.
`Touches` lists the parts for each form; a part that is not listed keeps its value, and so does
every part if the word is no instruction or fails.
-/

namespace Chip8

open Word (ofDigits)

/- What an instruction can change. Cells are counted from the index, before it moves. -/
inductive Part where
  | cell (offset : Nat)
  | register (r : Reg)
  | index
  | push
  | pop
  | display
  | delay
  | sound
  | random
  | waiting

/-- `Touches w p` says that words of the form of `w` can change the part `p`. -/
inductive Touches : Word → Part → Prop
  | clear : Touches (ofDigits 0x0 0x0 0xE 0x0) .display
  | ret : Touches (ofDigits 0x0 0x0 0xE 0xE) .pop
  | call (a b c : Fin 16) : Touches (ofDigits 0x2 a b c) .push
  | loadByte (x b c : Fin 16) : Touches (ofDigits 0x6 x b c) (.register x)
  | addByte (x b c : Fin 16) : Touches (ofDigits 0x7 x b c) (.register x)
  -- `8xy0` to `8xy3` leave the flag alone, `8xy4` to `8xy7` and `8xyE` set it
  | logic (x y d : Fin 16) (hd : d ≤ 3) : Touches (ofDigits 0x8 x y d) (.register x)
  | result (x y d : Fin 16) (hd : 4 ≤ d ∧ d ≤ 7 ∨ d = 0xE) :
      Touches (ofDigits 0x8 x y d) (.register x)
  | carry (x y d : Fin 16) (hd : 4 ≤ d ∧ d ≤ 7 ∨ d = 0xE) :
      Touches (ofDigits 0x8 x y d) (.register 0xF)
  | setIndex (a b c : Fin 16) : Touches (ofDigits 0xA a b c) .index
  | random (x b c : Fin 16) : Touches (ofDigits 0xC x b c) (.register x)
  | noise (x b c : Fin 16) : Touches (ofDigits 0xC x b c) .random
  | draw (x y n : Fin 16) : Touches (ofDigits 0xD x y n) .display
  | collision (x y n : Fin 16) : Touches (ofDigits 0xD x y n) (.register 0xF)
  | readDelay (x : Fin 16) : Touches (ofDigits 0xF x 0x0 0x7) (.register x)
  | awaitKey (x : Fin 16) : Touches (ofDigits 0xF x 0x0 0xA) (.register x)
  | wait (x : Fin 16) : Touches (ofDigits 0xF x 0x0 0xA) .waiting
  | setDelay (x : Fin 16) : Touches (ofDigits 0xF x 0x1 0x5) .delay
  | setSound (x : Fin 16) : Touches (ofDigits 0xF x 0x1 0x8) .sound
  | addIndex (x : Fin 16) : Touches (ofDigits 0xF x 0x1 0xE) .index
  | glyph (x : Fin 16) : Touches (ofDigits 0xF x 0x2 0x9) .index
  | digits (x : Fin 16) (j : Nat) (hj : j < 3) : Touches (ofDigits 0xF x 0x3 0x3) (.cell j)
  | save (x : Fin 16) (j : Nat) (hj : j ≤ x.val) : Touches (ofDigits 0xF x 0x5 0x5) (.cell j)
  | saveIndex (x : Fin 16) : Touches (ofDigits 0xF x 0x5 0x5) .index
  | restore (x r : Fin 16) (hr : r ≤ x) : Touches (ofDigits 0xF x 0x6 0x5) (.register r)
  | restoreIndex (x : Fin 16) : Touches (ofDigits 0xF x 0x6 0x5) .index

theorem Touches.ofByte {a r c d : Fin 16} {b : UInt8} {p : Part}
    (h : Touches (ofDigits a r c d) p) (hb : 16 * c.val + d.val = b.toNat) :
    Touches (Word.ofByte a r b) p := by
  rw [Word.ofByte_of_digits hb]
  exact h

theorem Touches.word_of_waiting {w : Word} (h : Touches w .waiting) :
    ∃ x, w = ofDigits 0xF x 0x0 0xA := by
  cases h with
  | wait x => exact ⟨x, rfl⟩

theorem Touches.word_of_delay {w : Word} (h : Touches w .delay) :
    ∃ x, w = ofDigits 0xF x 0x1 0x5 := by
  cases h with
  | setDelay x => exact ⟨x, rfl⟩

theorem Touches.word_of_sound {w : Word} (h : Touches w .sound) :
    ∃ x, w = ofDigits 0xF x 0x1 0x8 := by
  cases h with
  | setSound x => exact ⟨x, rfl⟩

theorem Touches.family_of_random {w : Word} (h : Touches w .random) : Word.family w = 0xC := by
  cases h with
  | noise x b c => exact Word.family_ofDigits 0xC x b c

namespace Machine

/-! ### Machines that differ in some parts only -/

/-- Between two machines at most the touched parts differ. -/
structure Confined (touched : Part → Prop) (m n : Machine) : Prop where
  memory : ∀ a, n.memory.get a ≠ m.memory.get a →
    ∃ j : Nat, touched (.cell j) ∧ a % 4096 = (m.index + j) % 4096
  register : ∀ r, n.reg r ≠ m.reg r → touched (.register r)
  index : n.index ≠ m.index → touched .index
  stack : n.stack ≠ m.stack →
    (touched .push ∧ ∃ a, n.stack = a :: m.stack) ∨ (touched .pop ∧ ∃ a, m.stack = a :: n.stack)
  display : n.display ≠ m.display → touched .display
  delay : n.timers.delay ≠ m.timers.delay → touched .delay
  sound : n.timers.sound ≠ m.timers.sound → touched .sound
  keypad : n.keypad = m.keypad
  random : n.noise ≠ m.noise → touched .random
  waiting : n.waiting ≠ m.waiting → touched .waiting

namespace Confined

variable {touched : Part → Prop} {m n : Machine}

theorem refl (touched : Part → Prop) (m : Machine) : Confined touched m m where
  memory _ h := absurd rfl h
  register _ h := absurd rfl h
  index h := absurd rfl h
  stack h := absurd rfl h
  display h := absurd rfl h
  delay h := absurd rfl h
  sound h := absurd rfl h
  keypad := rfl
  random h := absurd rfl h
  waiting h := absurd rfl h

/- Where the program goes on and what is noted on the way belongs to no part. -/
theorem beside (h : Confined touched m n) (pc : Int) (lastWord : Word) (lastAddress : Int)
    (cycles : Nat) (halted : Bool) (faults : List Fault) :
    Confined touched m { n with pc := pc, lastWord := lastWord, lastAddress := lastAddress,
                                cycles := cycles, halted := halted, faults := faults } :=
  { h with }

theorem setReg (h : Confined touched m n) {x : Reg} (hx : touched (.register x)) (b : UInt8) :
    Confined touched m (n.setReg x b) :=
  { h with
    register := by
      intro r hr
      rw [reg_setReg] at hr
      by_cases he : x = r
      · rw [← he]
        exact hx
      · rw [if_neg he] at hr
        exact h.register r hr }

theorem setRegs (h : Confined touched m n) {v : Vector UInt8 16}
    (hv : ∀ r : Reg, reg { n with v := v } r ≠ m.reg r → touched (.register r)) :
    Confined touched m { n with v := v } :=
  { h with register := hv }

theorem setIndex (h : Confined touched m n) (hi : touched .index) (index : Int) :
    Confined touched m { n with index := index } :=
  { h with index := fun _ => hi }

theorem write {bs : List UInt8} (hb : bs.length ≤ 4096)
    (hc : ∀ j < bs.length, touched (.cell j)) :
    Confined touched m { m with memory := m.memory.write m.index bs } :=
  { refl touched m with
    memory := by
      intro a ha
      have hget := m.memory.get_write m.index a hb
      by_cases hj : ((a - m.index) % 4096).toNat < bs.length
      · exact ⟨_, hc _ hj, by omega⟩
      · rw [List.getElem?_eq_none (Nat.le_of_not_lt hj)] at hget
        exact absurd hget ha }

end Confined

/-! ### What an instruction confines itself to -/

open Instruction (decode?)

theorem lowRegisters_length (m : Machine) (x : Reg) : (m.lowRegisters x).length = x.val + 1 := by
  have hx := x.isLt
  rw [lowRegisters, List.length_take, Vector.length_toList]
  omega

theorem operate_confined (m : Machine) (op : Operator) (x y : Reg) :
    Confined (Touches (ofDigits 0x8 x y op.code)) m (m.operate op x y) := by
  have hstay := Confined.refl (Touches (ofDigits 0x8 x y op.code)) m
  have logic (hd : op.code ≤ 3) (b : UInt8) :
      Confined (Touches (ofDigits 0x8 x y op.code)) m (m.setReg x b) :=
    hstay.setReg (.logic x y _ hd) b
  have arithmetic (hd : 4 ≤ op.code ∧ op.code ≤ 7 ∨ op.code = 0xE) (f b : UInt8) :
      Confined (Touches (ofDigits 0x8 x y op.code)) m ((m.setReg flag f).setReg x b) :=
    (hstay.setReg (.carry x y _ hd) f).setReg (.result x y _ hd) b
  cases op with
  | copy => exact logic (by decide) _
  | or => exact logic (by decide) _
  | and => exact logic (by decide) _
  | xor => exact logic (by decide) _
  | add => exact arithmetic (by decide) _ _
  | sub => exact arithmetic (by decide) _ _
  | shiftRight => exact arithmetic (by decide) _ _
  | subFrom => exact arithmetic (by decide) _ _
  | shiftLeft => exact arithmetic (by decide) _ _

theorem effect_confined {i : Instruction} {m n : Machine} (h : i.effect m = .ok n) :
    Confined (Touches i.encode) m n := by
  have hstay := Confined.refl (Touches i.encode) m
  have hjump (pc : Int) : Confined (Touches i.encode) m { m with pc := pc } :=
    hstay.beside pc _ _ _ _ _
  have hskip (c : Bool) : Confined (Touches i.encode) m (m.skipIf c) := by
    rw [Instruction.skipIf_eq]
    exact hjump _
  cases i with
  | clear => cases h; exact { hstay with display := fun _ => .clear }
  | ret =>
    obtain ⟨a, rest, hs, rfl⟩ := Instruction.effect_ret_ok h
    exact { hjump a with stack := fun _ => .inr ⟨.ret, a, hs⟩ }
  | jump t => cases h; exact hjump _
  | call t =>
    obtain ⟨-, rfl⟩ := Instruction.effect_call_ok h
    have ht : Touches (Word.ofTarget 0x2 t) .push := by
      rw [Word.ofTarget_eq_ofDigits]
      exact .call _ _ _
    exact { hjump t.val with stack := fun _ => .inl ⟨ht, m.pc, rfl⟩ }
  | skipIfByte x b => cases h; exact hskip _
  | skipUnlessByte x b => cases h; exact hskip _
  | skipIfEqual x y => cases h; exact hskip _
  | loadByte x b =>
    cases h
    have hx : Touches (Word.ofByte 0x6 x b) (.register x) := by
      rw [Word.ofByte_eq_ofDigits]
      exact .loadByte _ _ _
    exact hstay.setReg hx _
  | addByte x b =>
    cases h
    have hx : Touches (Word.ofByte 0x7 x b) (.register x) := by
      rw [Word.ofByte_eq_ofDigits]
      exact .addByte _ _ _
    exact hstay.setReg hx _
  | operate op x y => cases h; exact operate_confined m op x y
  | skipUnlessEqual x y => cases h; exact hskip _
  | setIndex t =>
    cases h
    have ht : Touches (Word.ofTarget 0xA t) .index := by
      rw [Word.ofTarget_eq_ofDigits]
      exact .setIndex _ _ _
    exact hstay.setIndex ht _
  | jumpFrom t => cases h; exact hjump _
  | random x mask =>
    cases h
    have hw := Word.ofByte_eq_ofDigits 0xC x mask
    have hnoise : Touches (Word.ofByte 0xC x mask) .random := by
      rw [hw]
      exact .noise _ _ _
    have hx : Touches (Word.ofByte 0xC x mask) (.register x) := by
      rw [hw]
      exact .random _ _ _
    have hdrawn :
        Confined (Touches (Word.ofByte 0xC x mask)) m { m with noise := m.noise.draw.2 } :=
      { hstay with random := fun _ => hnoise }
    exact hdrawn.setReg hx _
  | draw x y height =>
    cases h
    refine Confined.setReg ?_ (.collision x y height) _
    exact { hstay with display := fun _ => .draw x y height }
  | skipIfKey x => cases h; exact hskip _
  | skipUnlessKey x => cases h; exact hskip _
  | readDelay x => cases h; exact hstay.setReg ((Touches.readDelay x).ofByte rfl) _
  | awaitKey x =>
    have hwait : Touches (Word.ofByte 0xF x 0x0A) .waiting := (Touches.wait x).ofByte rfl
    rcases Instruction.effect_awaitKey_ok h with ⟨-, rfl⟩ | ⟨key, -, rfl⟩
    · exact { hstay with waiting := fun _ => hwait }
    · refine Confined.setReg ?_ ((Touches.awaitKey x).ofByte rfl) _
      exact { hstay with waiting := fun _ => hwait }
  | setDelay x => cases h; exact { hstay with delay := fun _ => (Touches.setDelay x).ofByte rfl }
  | setSound x => cases h; exact { hstay with sound := fun _ => (Touches.setSound x).ofByte rfl }
  | addIndex x => cases h; exact hstay.setIndex ((Touches.addIndex x).ofByte rfl) _
  | glyph x => cases h; exact hstay.setIndex ((Touches.glyph x).ofByte rfl) _
  | digits x =>
    cases h
    have hlen : (decimals (m.reg x)).length = 3 := rfl
    refine Confined.write (by omega) ?_
    intro j hj
    exact (Touches.digits x j hj).ofByte rfl
  | save x =>
    cases h
    have hlen := m.lowRegisters_length x
    have hx := x.isLt
    refine Confined.setIndex (Confined.write (by omega) ?_) ((Touches.saveIndex x).ofByte rfl) _
    intro j hj
    exact (Touches.save x j (by omega)).ofByte rfl
  | restore x =>
    have hx : Touches (Word.ofByte 0xF x 0x65) .index := (Touches.restoreIndex x).ofByte rfl
    have hregs {v : Vector UInt8 16} (hv : ∀ r : Reg, v[r.val] ≠ m.reg r → r ≤ x) (index : Int) :
        Confined (Touches (Word.ofByte 0xF x 0x65)) m { m with v := v, index := index } :=
      (hstay.setRegs fun r hr => (Touches.restore x r (hv r hr)).ofByte rfl).setIndex hx index
    cases h
    refine hregs ?_ _
    intro r hr
    by_cases hle : r ≤ x
    · exact hle
    · have hkept : ¬r.val ≤ x.val := hle
      rw [Vector.getElem_ofFn, if_neg hkept] at hr
      exact absurd rfl hr

/-! ### What an execution confines itself to -/

theorem execute_confined (m : Machine) : Confined (Touches m.nextWord) m m.execute.1 := by
  have hstay := Confined.refl (Touches m.nextWord) m
  rcases execute_cases m with ⟨i, n, hi, he, hx⟩ | ⟨kind, -, hx⟩
  · have hn : Confined (Touches m.nextWord) m.fetch n := by
      rw [← Instruction.encode_of_decode? hi]
      exact effect_confined he
    rw [hx]
    exact { hn.beside _ _ _ (n.cycles + 1) _ _ with }
  · rw [hx]
    exact hstay.beside _ _ _ _ _ _

theorem execute_cycles (m : Machine) : m.execute.1.cycles = m.cycles + 1 := by
  rcases execute_cases m with ⟨i, n, -, he, hx⟩ | ⟨kind, -, hx⟩
  · have hn : n.cycles = m.cycles := by
      cases Instruction.effect_outcome he with
      | ret a rest _ _ => rfl
      | call t _ _ => rfl
      | plain _ _ _ _ _ _ _ _ _ _ => rfl
    rw [hx]
    exact congrArg (· + 1) hn
  · rw [hx]
    rfl

theorem execute_noise (m : Machine) :
    m.execute.1.noise = if Word.family m.nextWord = 0xC then m.noise.draw.2 else m.noise := by
  split
  · rename_i hw
    have hi : decode? m.nextWord = some (.random (Word.x m.nextWord) (Word.nn m.nextWord)) := by
      rw [Instruction.decode?_eq_some_iff, Instruction.encode, ← hw, Word.ofByte_family]
    rw [execute_eq_carryOut hi]
    rfl
  · rename_i hw
    by_cases hn : m.execute.1.noise = m.noise
    · exact hn
    · exact absurd ((execute_confined m).random hn).family_of_random hw

/-- Executing a word changes only what its form touches, and never the keypad. It draws one random
byte if the word is a `Cxnn` and none otherwise, and always counts one cycle. -/
theorem execute_footprint (m : Machine) :
    Confined (Touches m.nextWord) m m.execute.1 ∧
      m.execute.1.noise = (if Word.family m.nextWord = 0xC then m.noise.draw.2 else m.noise) ∧
      m.execute.1.cycles = m.cycles + 1 :=
  ⟨execute_confined m, execute_noise m, execute_cycles m⟩

end Machine

end Chip8
