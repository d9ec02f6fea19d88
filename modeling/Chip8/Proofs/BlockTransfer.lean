import Chip8.Proofs.Footprints

/-!
# Saving and restoring registers

A block of registers is saved to the addresses from the index on and restored from there. The block
may come round at the end of memory: the addresses are taken modulo its size, so that no two of its
at most sixteen bytes fall on the same cell. That is why either of the two undoes the other.
-/

namespace Chip8.Machine

open Instruction (decode?)

/- The two ways in which an instruction is carried out: alone, or as the word that comes next. -/
inductive Performs (i : Instruction) (m : Machine) : Machine → Prop
  | alone {n : Machine} (h : i.effect m = .ok n) : Performs i m n
  | fetched (h : m.nextWord = i.encode) : Performs i m m.execute.1

/- Where `V0` to `Vx` go, and that nothing else in memory changes. -/
structure Saves (x : Reg) (m n : Machine) : Prop where
  stored : ∀ r ≤ x, n.memory.get (m.index + r.val) = m.reg r
  untouched : ∀ a : Int, (∀ r ≤ x, a % 4096 ≠ (m.index + r.val) % 4096) →
    n.memory.get a = m.memory.get a
  registers : ∀ r, n.reg r = m.reg r
  index : n.index = (m.index + x.val + 1) % 4096

/- Where `V0` to `Vx` come from, and that the other registers and memory stay. -/
structure Restores (x : Reg) (m n : Machine) : Prop where
  loaded : ∀ r ≤ x, n.reg r = m.memory.get (m.index + r.val)
  kept : ∀ r, x < r → n.reg r = m.reg r
  untouched : n.memory = m.memory
  index : n.index = (m.index + x.val + 1) % 4096

/-! ### One transfer -/

theorem lowRegisters_getElem? (m : Machine) {x r : Reg} (h : r ≤ x) :
    (m.lowRegisters x)[r.val]? = some (m.reg r) := by
  have hlow : r.val < x.val + 1 := Nat.lt_succ_of_le h
  rw [lowRegisters, List.getElem?_take_of_lt hlow]
  simp [reg]

theorem effect_saves {x : Reg} {m n : Machine} (h : (Instruction.save x).effect m = .ok n) :
    Saves x m n := by
  cases h
  have hlength := m.lowRegisters_length x
  have hx := x.isLt
  have hsize : (m.lowRegisters x).length ≤ 4096 := by omega
  refine ⟨?_, ?_, fun _ => rfl, rfl⟩
  · intro r hr
    exact m.memory.get_write_inside m.index hsize (m.lowRegisters_getElem? hr)
  · intro a ha
    refine m.memory.get_write_outside ?_
    intro j hj
    have hlow : j ≤ x.val := by omega
    exact ha ⟨j, by omega⟩ hlow

theorem effect_restores {x : Reg} {m n : Machine} (h : (Instruction.restore x).effect m = .ok n) :
    Restores x m n := by
  have hreg (f : Reg → UInt8) (index : Int) (r : Reg) :
      reg { m with v := Vector.ofFn f, index := index } r = f r := by
    simp [reg]
  cases h
  refine ⟨?_, ?_, rfl, rfl⟩
  · intro r hr
    rw [hreg]
    exact if_pos hr
  · intro r hr
    rw [hreg]
    exact if_neg (Nat.not_le_of_lt hr)

theorem execute_of_effect {i : Instruction} {m n : Machine} (hw : m.nextWord = i.encode)
    (he : i.effect m.fetch = .ok n) : m.execute.1 = n.count := by
  have hi : decode? m.nextWord = some i := by
    rw [hw]
    exact Instruction.decode?_encode i
  rw [execute_eq_carryOut hi, carryOut, he]

theorem Performs.saves {x : Reg} {m n : Machine} (h : Performs (.save x) m n) : Saves x m n := by
  cases h with
  | alone he => exact effect_saves he
  | fetched hw =>
    obtain ⟨hstored, huntouched, hregisters, hindex⟩ := effect_saves (m := m.fetch) rfl
    rw [execute_of_effect hw rfl]
    exact ⟨hstored, huntouched, hregisters, hindex⟩

theorem Performs.restores {x : Reg} {m n : Machine} (h : Performs (.restore x) m n) :
    Restores x m n := by
  cases h with
  | alone he => exact effect_restores he
  | fetched hw =>
    obtain ⟨hloaded, hkept, huntouched, hindex⟩ := effect_restores (m := m.fetch) rfl
    rw [execute_of_effect hw rfl]
    exact ⟨hloaded, hkept, huntouched, hindex⟩

/-! ### One transfer after the other -/

theorem Saves.restored {x : Reg} {m saved later n : Machine} (hsaves : Saves x m saved)
    (hmemory : later.memory = saved.memory) (hindex : later.index = m.index)
    (hrestores : Restores x later n) {r : Reg} (hr : r ≤ x) : n.reg r = m.reg r := by
  rw [hrestores.loaded r hr, hmemory, hindex]
  exact hsaves.stored r hr

theorem Restores.saved {x : Reg} {m loaded later n : Machine} (hrestores : Restores x m loaded)
    (hmemory : later.memory = loaded.memory) (hindex : later.index = m.index)
    (hregs : ∀ r ≤ x, later.reg r = loaded.reg r) (hsaves : Saves x later n) :
    n.memory = m.memory := by
  refine Memory.ext_get fun a => ?_
  by_cases ha : ∃ r ≤ x, a % 4096 = (m.index + r.val) % 4096
  · -- the byte at this address has been in a register meanwhile
    obtain ⟨r, hr, hmod⟩ := ha
    rw [← n.memory.get_emod, ← m.memory.get_emod, hmod, Memory.get_emod, Memory.get_emod,
      ← hrestores.loaded r hr, ← hregs r hr, ← hindex]
    exact hsaves.stored r hr
  · rw [hsaves.untouched a, hmemory, hrestores.untouched]
    intro r hr hmod
    rw [hindex] at hmod
    exact ha ⟨r, hr, hmod⟩

/-- Registers that are saved come back when they are restored from where they were saved, whatever
has become of the registers meanwhile, and saving what has just been restored from the same place
changes no byte of memory. Either moves the index past the block, and touches nothing outside the
block, wherever in memory it lies. -/
theorem transfers_invert (m : Machine) (x : Reg) :
    (∃ saved, (Instruction.save x).effect m = .ok saved) ∧
    (∃ loaded, (Instruction.restore x).effect m = .ok loaded) ∧
    (∀ saved, Performs (.save x) m saved → Saves x m saved ∧
      ∀ later n, later.memory = saved.memory → later.index = m.index →
        Performs (.restore x) later n → Restores x later n ∧ ∀ r ≤ x, n.reg r = m.reg r) ∧
    ∀ loaded, Performs (.restore x) m loaded → Restores x m loaded ∧
      ∀ later n, later.memory = loaded.memory → later.index = m.index →
        (∀ r ≤ x, later.reg r = loaded.reg r) → Performs (.save x) later n →
          Saves x later n ∧ n.memory = m.memory := by
  refine ⟨⟨_, rfl⟩, ⟨_, rfl⟩, ?_, ?_⟩
  · intro saved hsaved
    refine ⟨hsaved.saves, ?_⟩
    intro later n hmemory hindex hn
    exact ⟨hn.restores, fun r hr => hsaved.saves.restored hmemory hindex hn.restores hr⟩
  · intro loaded hloaded
    refine ⟨hloaded.restores, ?_⟩
    intro later n hmemory hindex hregs hn
    exact ⟨hn.saves, hloaded.restores.saved hmemory hindex hregs hn.saves⟩

/- Registers that are saved from the last two cells of memory on, and so into the font. -/
def crossing : Machine :=
  { powerOn ⟨fun _ => 0, 0⟩ false with index := 0xFFE, v := Vector.replicate 16 0xAB }

theorem crossing_inverts :
    (∃ saved n, (Instruction.save 0x3).effect crossing = .ok saved ∧
      (Instruction.restore 0x3).effect
        { saved with index := 0xFFE, v := Vector.replicate 16 0 } = .ok n ∧
      saved.memory.get 0x001 = 0xAB ∧ saved.memory.get 0x002 = crossing.memory.get 0x002 ∧
      saved.index = 0x002 ∧ n.reg 0x3 = 0xAB ∧ n.reg 0x4 = 0) ∧
    ∃ loaded n, (Instruction.restore 0x3).effect crossing = .ok loaded ∧
      (Instruction.save 0x3).effect { loaded with index := 0xFFE } = .ok n ∧
      n.memory = crossing.memory := by
  have haddress : (crossing.index + ((0x3 : Reg).val : Int)) % 4096 = 0x001 := by decide
  have hreg : crossing.reg 0x3 = 0xAB := by decide
  obtain ⟨⟨saved, hsaved⟩, ⟨loaded, hloaded⟩, hsaves, hloads⟩ := transfers_invert crossing 0x3
  obtain ⟨hfirst, hback⟩ := hsaves saved (.alone hsaved)
  constructor
  · have hagain := hback { saved with index := 0xFFE, v := Vector.replicate 16 0 } _ rfl rfl
      (.alone rfl)
    refine ⟨saved, _, hsaved, rfl, ?_, ?_, hfirst.index, ?_, ?_⟩
    · rw [← haddress, Memory.get_emod, hfirst.stored 0x3 (by decide), hreg]
    · exact hfirst.untouched _ (by decide)
    · rw [hagain.2 0x3 (by decide), hreg]
    · rw [hagain.1.kept 0x4 (by decide)]
      rfl
  · have hagain := (hloads loaded (.alone hloaded)).2 { loaded with index := 0xFFE } _ rfl rfl
      (fun _ _ => rfl) (.alone rfl)
    exact ⟨loaded, _, hloaded, rfl, hagain.2⟩

end Chip8.Machine
