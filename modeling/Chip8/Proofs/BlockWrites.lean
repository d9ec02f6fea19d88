import Mathlib.Order.Bounds.Defs
import Chip8.Memory

/-!
# Blocks in memory

A block of integers is written from any address on, element by element, each reduced to its low
eight bits. It may be longer than memory: then it comes round, any number of times, and overwrites
its own beginning, so that a cell holds the last element that falls there. A block that is no longer
than memory does not meet itself and is read back as it was written.
-/

namespace Chip8.Memory

/- The positions in a block from `a` on whose elements fall on the cell of `p`. -/
def fallingOn (a p : Int) (length : Nat) : Set Nat :=
  {j | j < length ∧ (a + j) % 4096 = p % 4096}

/-! ### The last writer of a cell -/

theorem get_write_last (m : Memory) {a p : Int} {bs : List UInt8} {j : Nat}
    (h : IsGreatest (fallingOn a p bs.length) j) : bs[j]? = some ((m.write a bs).get p) := by
  obtain ⟨⟨hj, hcell⟩, hlast⟩ := h
  have hfront : (bs.take j).length = j := List.length_take_of_le (Nat.le_of_lt hj)
  -- what follows element `j` does not come by at `p` again
  have hbehind : ∀ i : Nat, i < (bs.drop (j + 1)).length →
      p % 4096 ≠ (a + j + 1 + i) % 4096 := by
    intro i hi hmod
    rw [List.length_drop] at hi
    have hlater : j + 1 + i ∈ fallingOn a p bs.length := ⟨by omega, by omega⟩
    have hle := hlast hlater
    omega
  have hwritten := m.write_append a (bs.take j) (bs.drop j)
  rw [List.take_append_drop, hfront, List.drop_eq_getElem_cons hj, write] at hwritten
  rw [hwritten, get_write_outside _ hbehind, get_set, if_pos ((cell_eq_iff _ _).mpr hcell)]
  exact List.getElem?_eq_getElem hj

theorem get_write_untouched (m : Memory) {a p : Int} {bs : List UInt8}
    (h : fallingOn a p bs.length = ∅) : (m.write a bs).get p = m.get p := by
  refine m.get_write_outside ?_
  intro j hj hmod
  have hfalls : j ∈ fallingOn a p bs.length := ⟨hj, hmod.symm⟩
  rw [h] at hfalls
  exact hfalls

/-! ### Reading a block back -/

theorem read_write (m : Memory) (a : Int) {bs : List UInt8} (h : bs.length ≤ 4096) :
    (m.write a bs).read a bs.length = bs := by
  refine List.ext_getElem? ?_
  intro j
  by_cases hj : j < bs.length
  · have hb := List.getElem?_eq_getElem hj
    rw [read_getElem? _ _ _ _ hj, get_write_inside m a h hb, hb]
  · have hend := Nat.le_of_not_lt hj
    have hread : ((m.write a bs).read a bs.length).length ≤ j := by
      rw [read_length]
      omega
    rw [List.getElem?_eq_none hread, List.getElem?_eq_none hend]

theorem word_write (m : Memory) (a : Int) {bs : List UInt8} (h : bs.length ≤ 4096) {j : Nat}
    {high low : UInt8} (hhigh : bs[j]? = some high) (hlow : bs[j + 1]? = some low) :
    (m.write a bs).word (a + j) = Word.ofBytes high low := by
  have hnext : a + j + 1 = a + ((j + 1 : Nat) : Int) := by omega
  rw [word, hnext, get_write_inside m a h hhigh, get_write_inside m a h hlow]

/-! ### Addresses a whole memory apart -/

theorem cell_shift (a k : Int) : cell (a + 4096 * k) = cell a := by
  rw [cell_eq_iff]
  omega

theorem get_shift (m : Memory) (a k : Int) : m.get (a + 4096 * k) = m.get a := by
  simp only [get, cell_shift]

theorem set_shift (m : Memory) (a k : Int) (b : UInt8) : m.set (a + 4096 * k) b = m.set a b := by
  simp only [set, cell_shift]

theorem write_shift (m : Memory) (a k : Int) (bs : List UInt8) :
    m.write (a + 4096 * k) bs = m.write a bs := by
  induction bs generalizing m a with
  | nil => rfl
  | cons b rest ih =>
    have hnext : a + 4096 * k + 1 = a + 1 + 4096 * k := by omega
    rw [write, write, set_shift, hnext, ih]

theorem read_shift (m : Memory) (a k length : Int) :
    m.read (a + 4096 * k) length = m.read a length := by
  refine List.map_congr_left ?_
  intro j _
  have hplace : a + 4096 * k + j = a + j + 4096 * k := by omega
  rw [hplace, get_shift]

theorem word_shift (m : Memory) (a k : Int) : m.word (a + 4096 * k) = m.word a := by
  have hnext : a + 4096 * k + 1 = a + 1 + 4096 * k := by omega
  rw [word, word, hnext, get_shift, get_shift]

/-! ### Integers handed over by a host -/

theorem storeValues_int (m : Memory) (a : Int) (offset : Nat) (data : List Int) :
    m.storeValues (.int a) offset (data.map .int) =
      (m.write (a + offset) (data.map byteOf), none) := by
  induction data generalizing m offset with
  | nil => rfl
  | cons v rest ih =>
    have hstep : m.storeValues (.int a) offset ((v :: rest).map .int) =
        (m.store (a + offset) v).storeValues (.int a) (offset + 1) (rest.map .int) := rfl
    have hnext : a + offset + 1 = a + ((offset + 1 : Nat) : Int) := by omega
    rw [hstep, ih, List.map_cons, write, hnext]
    rfl

theorem writeValue_int (m : Memory) (a : Int) (data : List Int) :
    m.writeValue (.int a) (.list (data.map .int)) = (m.write a (data.map byteOf), none) := by
  have hstore := m.storeValues_int a 0 data
  rwa [Int.natCast_zero, Int.add_zero] at hstore

theorem readValue_int (m : Memory) (a length : Int) :
    m.readValue (.int a) (.int length) = .ok (m.read a length) := by
  by_cases hn : length ≤ 0
  · have hnone : m.read a length = [] := by
      rw [read, Int.toNat_of_nonpos hn]
      rfl
    rw [hnone]
    exact if_pos hn
  · have hstart : m.read (a + 0) length = m.read a length := by rw [Int.add_zero]
    rw [← hstart]
    exact if_neg hn

theorem map_byteOf_toNat (data : List Int) :
    (data.map byteOf).map (fun b => (b.toNat : Int)) = data.map (· % 256) := by
  rw [List.map_map]
  refine List.map_congr_left ?_
  intro v _
  have hbyte := byteOf_toNat v
  simp only [Function.comp_apply]
  omega

/-- Integers are written from any address on. At each address lies the last of them that falls
there, modulo 256, or what was there before if none does. If they are no more than memory has cells,
they are read back, modulo 256, as bytes and as words. Nothing depends on which of the addresses
that are a whole memory apart is used. -/
theorem block_written (m : Memory) (a : Int) (data : List Int) :
    (∃ n : Memory, m.writeValue (.int a) (.list (data.map .int)) = (n, none) ∧
      (∀ p j, IsGreatest (fallingOn a p data.length) j →
        data[j]?.map (· % 256) = some ((n.get p).toNat : Int)) ∧
      (∀ p, fallingOn a p data.length = ∅ → n.get p = m.get p) ∧
      (data.length ≤ 4096 →
        (∃ bytes, n.readValue (.int a) (.int data.length) = .ok bytes ∧
          bytes.map (fun b => (b.toNat : Int)) = data.map (· % 256)) ∧
        ∀ (j : Nat) (u v : Int), data[j]? = some u → data[j + 1]? = some v →
          ∃ w, n.wordValue (.int (a + j)) = .ok w ∧
            (w.toNat : Int) = 256 * (u % 256) + v % 256)) ∧
    ∀ k : Int,
      m.writeValue (.int (a + 4096 * k)) (.list (data.map .int)) =
        m.writeValue (.int a) (.list (data.map .int)) ∧
      (∀ length : Int, m.readValue (.int (a + 4096 * k)) (.int length) =
        m.readValue (.int a) (.int length)) ∧
      m.wordValue (.int (a + 4096 * k)) = m.wordValue (.int a) := by
  have hlength : (data.map byteOf).length = data.length := List.length_map _
  refine ⟨⟨m.write a (data.map byteOf), m.writeValue_int a data, ?_, ?_, ?_⟩, ?_⟩
  · intro p j hj
    rw [← hlength] at hj
    have hbyte := m.get_write_last hj
    rw [← List.getElem?_map, ← map_byteOf_toNat, List.getElem?_map, hbyte]
    rfl
  · intro p hp
    rw [← hlength] at hp
    exact m.get_write_untouched hp
  · intro hsize
    rw [← hlength] at hsize
    refine ⟨⟨data.map byteOf, ?_, map_byteOf_toNat data⟩, ?_⟩
    · rw [readValue_int, ← hlength, read_write m a hsize]
    · intro j u v hu hv
      have hhigh : (data.map byteOf)[j]? = some (byteOf u) := by
        rw [List.getElem?_map, hu]
        rfl
      have hlow : (data.map byteOf)[j + 1]? = some (byteOf v) := by
        rw [List.getElem?_map, hv]
        rfl
      refine ⟨Word.ofBytes (byteOf u) (byteOf v), ?_, ?_⟩
      · exact congrArg Except.ok (word_write m a hsize hhigh hlow)
      · have hu256 := byteOf_toNat u
        have hv256 := byteOf_toNat v
        rw [Word.ofBytes_toNat]
        omega
  · intro k
    refine ⟨?_, ?_, ?_⟩
    · rw [writeValue_int, writeValue_int, write_shift]
    · intro length
      rw [readValue_int, readValue_int, read_shift]
    · exact congrArg Except.ok (m.word_shift a k)

/- One element more than memory has cells. -/
def longBlock : List Int := List.replicate 4096 1 ++ [258]

/-- From the last cell on, the last element of the long block overwrites the first. -/
theorem longBlock_written :
    IsGreatest (fallingOn (-1) 0xFFF longBlock.length) 4096 ∧
      ∃ n : Memory, blank.writeValue (.int (-1)) (.list (longBlock.map .int)) = (n, none) ∧
        (n.get 0xFFF).toNat = 2 := by
  have hlength : longBlock.length = 4097 := by
    rw [longBlock, List.length_append, List.length_replicate, List.length_singleton]
  have hlast : IsGreatest (fallingOn (-1) 0xFFF longBlock.length) 4096 := by
    rw [hlength]
    refine ⟨⟨by decide, by decide⟩, ?_⟩
    intro j hj
    exact Nat.le_of_lt_succ hj.1
  have helement : longBlock[(List.replicate 4096 (1 : Int)).length]? = some 258 :=
    List.getElem?_concat_length
  rw [List.length_replicate] at helement
  obtain ⟨⟨n, hn, hbytes, -⟩, -⟩ := block_written blank (-1) longBlock
  have hbyte := hbytes _ _ hlast
  rw [helement] at hbyte
  have htwo : (258 % 256 : Int) = ((n.get 0xFFF).toNat : Int) := Option.some.inj hbyte
  exact ⟨hlast, n, hn, by omega⟩

end Chip8.Memory
