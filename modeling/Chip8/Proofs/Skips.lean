import Chip8.Proofs.Effects

/-!
# Skips

Three questions have a pair of instructions each: one leaves out the next word if the answer is yes,
the other if it is no. Whatever the machine and the place of the word, one of the two goes on four
bytes further and the other two, and neither does anything else.
-/

namespace Chip8

open Instruction (decode?)

/- What the skips ask; keys are named by the low digit of a register. -/
inductive Question where
  | byte (x : Reg) (b : UInt8)
  | register (x y : Reg)
  | key (x : Reg)

namespace Question

def Holds (m : Machine) : Question → Prop
  | byte x b => m.reg x = b
  | register x y => m.reg x = m.reg y
  | key x => ∃ k : Fin 16, k.val = (m.reg x).toNat % 16 ∧ m.keypad.isDown k = true

/- `3xnn`, `5xy0` and `Ex9E` skip if the answer is yes. -/
def ifWord : Question → Word
  | byte x b => UInt16.ofNat (0x3000 + 0x100 * x.val + b.toNat)
  | register x y => UInt16.ofNat (0x5000 + 0x100 * x.val + 0x10 * y.val)
  | key x => UInt16.ofNat (0xE000 + 0x100 * x.val + 0x9E)

/- `4xnn`, `9xy0` and `ExA1` skip if it is no. -/
def unlessWord : Question → Word
  | byte x b => UInt16.ofNat (0x4000 + 0x100 * x.val + b.toNat)
  | register x y => UInt16.ofNat (0x9000 + 0x100 * x.val + 0x10 * y.val)
  | key x => UInt16.ofNat (0xE000 + 0x100 * x.val + 0xA1)

def ifSkip : Question → Instruction
  | byte x b => .skipIfByte x b
  | register x y => .skipIfEqual x y
  | key x => .skipIfKey x

def unlessSkip : Question → Instruction
  | byte x b => .skipUnlessByte x b
  | register x y => .skipUnlessEqual x y
  | key x => .skipUnlessKey x

theorem ifWord_eq (q : Question) : q.ifWord = q.ifSkip.encode := by
  cases q <;> rfl

theorem unlessWord_eq (q : Question) : q.unlessWord = q.unlessSkip.encode := by
  cases q <;> rfl

/- The answer as both instructions find it; it depends on nothing that a fetch changes. -/
theorem effects (m : Machine) (q : Question) : ∃ c : Bool, (c = true ↔ q.Holds m) ∧
    ∀ n : Machine, n.v = m.v → n.keypad = m.keypad →
      q.ifSkip.effect n = .ok (n.skipIf c) ∧ q.unlessSkip.effect n = .ok (n.skipIf !c) := by
  cases q with
  | byte x b =>
    refine ⟨decide (m.reg x = b), decide_eq_true_iff, ?_⟩
    intro n hv _
    have hx : n.reg x = m.reg x := by simp only [Machine.reg, hv]
    simp [ifSkip, unlessSkip, Instruction.effect, hx]
  | register x y =>
    refine ⟨decide (m.reg x = m.reg y), decide_eq_true_iff, ?_⟩
    intro n hv _
    have hx : n.reg x = m.reg x := by simp only [Machine.reg, hv]
    have hy : n.reg y = m.reg y := by simp only [Machine.reg, hv]
    simp [ifSkip, unlessSkip, Instruction.effect, hx, hy]
  | key x =>
    have hlt : (m.reg x).toNat % 16 < 16 := by omega
    refine ⟨m.keypad.isDown ⟨_, hlt⟩, ?_, ?_⟩
    · constructor
      · intro hdown
        exact ⟨⟨_, hlt⟩, rfl, hdown⟩
      · rintro ⟨k, hk, hdown⟩
        have hkey : k = ⟨_, hlt⟩ := Fin.ext hk
        rwa [hkey] at hdown
    · intro n hv hkeypad
      have hx : n.reg x = m.reg x := by simp only [Machine.reg, hv]
      simp [ifSkip, unlessSkip, Instruction.effect, hx, hkeypad]

end Question

namespace Machine

/-! ### A word put in place -/

/- The machine with a word stored at an address, about to execute it. -/
def placing (m : Machine) (a : Int) (w : Word) : Machine :=
  { m with memory := m.memory.write a [UInt8.ofNat (w.toNat / 256), Word.nn w], pc := a }

theorem nextWord_placing (m : Machine) (a : Int) (w : Word) : (m.placing a w).nextWord = w := by
  have hlt := w.toNat_lt
  have hsize : [UInt8.ofNat (w.toNat / 256), Word.nn w].length ≤ 4096 := by simp
  have hhigh : (m.placing a w).memory.get a = UInt8.ofNat (w.toNat / 256) := by
    have hfirst := Memory.get_write_inside m.memory a hsize (j := 0) rfl
    rwa [Int.natCast_zero, Int.add_zero] at hfirst
  have hlow : (m.placing a w).memory.get (a + 1) = Word.nn w :=
    Memory.get_write_inside m.memory a hsize (j := 1) rfl
  apply UInt16.toNat_inj.mp
  show (Word.ofBytes ((m.placing a w).memory.get a) ((m.placing a w).memory.get (a + 1))).toNat = _
  rw [hhigh, hlow, Word.ofBytes_toNat, Word.nn_toNat, UInt8.toNat_ofNat']
  omega

/- At most the place of the next word, what is noted of the last one, and the two bytes from `a` on
differ. -/
structure AlikeBut (a : Int) (m n : Machine) : Prop where
  state : n = { m with memory := n.memory, pc := n.pc, lastWord := n.lastWord,
                       lastAddress := n.lastAddress }
  memory : ∀ p, p % 4096 ≠ a % 4096 → p % 4096 ≠ (a + 1) % 4096 →
    n.memory.get p = m.memory.get p

namespace AlikeBut

variable {a : Int} {m n k : Machine}

theorem symm (h : AlikeBut a m n) : AlikeBut a n m where
  state := by
    rw [h.state]
  memory p ha hb := (h.memory p ha hb).symm

theorem trans (h : AlikeBut a m n) (h' : AlikeBut a n k) : AlikeBut a m k where
  state := by
    rw [h'.state, h.state]
  memory p ha hb := (h'.memory p ha hb).trans (h.memory p ha hb)

end AlikeBut

theorem placing_alikeBut (m : Machine) (a : Int) (w : Word) : AlikeBut a m (m.placing a w) where
  state := rfl
  memory := by
    intro p ha hb
    refine Memory.get_write_outside m.memory ?_
    intro j hj
    have hj : j = 0 ∨ j = 1 := by
      simp only [List.length_cons, List.length_nil] at hj
      omega
    rcases hj with rfl | rfl
    · simpa using ha
    · simpa using hb

/-! ### Skipping -/

/- The word `w`, executed at `a`, goes on at `pc` and does nothing else but count. -/
structure GoesOn (m : Machine) (a : Int) (w : Word) (pc : Int) : Prop where
  pc : (m.placing a w).execute.1.pc = pc
  memory : (m.placing a w).execute.1.memory = (m.placing a w).memory
  alike : AlikeBut a m.count (m.placing a w).execute.1

theorem execute_skip {m : Machine} {a : Int} {i : Instruction} {c : Bool}
    (h : i.effect (m.placing a i.encode).fetch = .ok ((m.placing a i.encode).fetch.skipIf c)) :
    GoesOn m a i.encode (if c then (a + 4) % 4096 else (a + 2) % 4096) := by
  have hi : decode? (m.placing a i.encode).nextWord = some i := by
    rw [nextWord_placing, Instruction.decode?_encode]
  have hafter : (m.placing a i.encode).execute.1 =
      ((m.placing a i.encode).fetch.skipIf c).count := by
    rw [execute_eq_carryOut hi, carryOut, h]
  have hpc : (m.placing a i.encode).execute.1.pc =
      if c then (a + 4) % 4096 else (a + 2) % 4096 := by
    -- the second reduction acts on an address that the fetch has already reduced
    rw [hafter, Instruction.skipIf_eq]
    show (if c then wrap (wrap (a + 2) + 2) else wrap (a + 2)) = _
    simp only [wrap]
    split
    · omega
    · rfl
  have hmemory : (m.placing a i.encode).execute.1.memory = (m.placing a i.encode).memory := by
    rw [hafter, Instruction.skipIf_eq]
    rfl
  refine ⟨hpc, hmemory, ?_, ?_⟩
  · rw [hafter, Instruction.skipIf_eq]
    rfl
  · rw [hmemory]
    exact (placing_alikeBut m a i.encode).memory

/-- Put at the same place in the same machine, exactly one of the two words of a question skips, the
first if the answer is yes; for the rest both only count as one instruction. -/
theorem skips_complement (m : Machine) (a : Int) (q : Question) :
    (a + 2) % 4096 ≠ (a + 4) % 4096 ∧
    (q.Holds m ∧ GoesOn m a q.ifWord ((a + 4) % 4096) ∧ GoesOn m a q.unlessWord ((a + 2) % 4096) ∨
      ¬q.Holds m ∧ GoesOn m a q.ifWord ((a + 2) % 4096) ∧
        GoesOn m a q.unlessWord ((a + 4) % 4096)) ∧
    AlikeBut a (m.placing a q.ifWord).execute.1 (m.placing a q.unlessWord).execute.1 := by
  obtain ⟨c, hc, heffects⟩ := q.effects m
  obtain ⟨hif, -⟩ := heffects (m.placing a q.ifSkip.encode).fetch rfl rfl
  obtain ⟨-, hunless⟩ := heffects (m.placing a q.unlessSkip.encode).fetch rfl rfl
  have hfirst := execute_skip hif
  have hsecond := execute_skip hunless
  rw [q.ifWord_eq, q.unlessWord_eq, ← hc]
  refine ⟨by omega, ?_, hfirst.alike.symm.trans hsecond.alike⟩
  cases c with
  | true => exact .inl ⟨rfl, hfirst, hsecond⟩
  | false => exact .inr ⟨nofun, hfirst, hsecond⟩

end Machine

end Chip8
