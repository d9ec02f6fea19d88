import Chip8.Machine.Load
import Chip8.Proofs.Effects
import Chip8.Proofs.Sprites

/-!
# Drawing by instruction

`Dxyn` takes its sprite from memory and its position from two registers, all as they are before it
writes the flag. Its sprites have fewer rows than the screen, so it flips exactly the pixels that it
covers, and the flag tells of a pixel that went dark. Unless the position comes from the flag
itself, the same instruction flips the same pixels once more: the picture is back, and the flag
tells of a covered pixel that was dark at first.
-/

namespace Chip8

open Instruction (decode?)
open Word (ofDigits)

theorem Sprite.bodd_coverage {s : Sprite} (h : s.rows.length ≤ 32) (px py : Int) :
    (s.coverage px py).bodd = decide (0 < s.coverage px py) := by
  rw [← count_places, (places_nodup_of_short h).count]
  split <;> rfl

namespace Machine

/- The sprite of a `Dxyn` that comes next. -/
def sprite (m : Machine) (x y height : Fin 16) : Sprite where
  x := (m.reg x).toNat
  y := (m.reg y).toNat
  rows := (List.range height.val).map fun (r : Nat) =>
    ((m.memory.get ((m.index + r) % 4096)).toNat : Int)

theorem sprite_bytes (m : Machine) (x y height : Fin 16) :
    (m.sprite x y height).bytes = m.memory.read m.index height.val := by
  rw [Sprite.bytes, sprite, List.map_map, Memory.read, Int.toNat_natCast]
  refine List.map_congr_left ?_
  intro r _
  rw [Function.comp_apply, byteOf_natCast_toNat, Memory.get_emod]

theorem sprite_short (m : Machine) (x y height : Fin 16) :
    (m.sprite x y height).rows.length ≤ 32 := by
  have hheight := height.isLt
  rw [sprite, List.length_map, List.length_range]
  omega

/- What is drawn, and what becomes of the flag. -/
structure Draws (m : Machine) (s : Sprite) (n : Machine) : Prop where
  picture : ∀ px py, n.display.frame.pixel px py =
    (m.display.frame.pixel px py ^^ decide (0 < s.coverage px py))
  collision : n.reg 0xF = 1 ↔
    ∃ px py, m.display.frame.pixel px py = true ∧ n.display.frame.pixel px py = false
  clear : n.reg 0xF = 0 ↔
    ¬∃ px py, m.display.frame.pixel px py = true ∧ n.display.frame.pixel px py = false
  others : ∀ r, r ≠ 0xF → n.reg r = m.reg r
  index : n.index = m.index
  memory : n.memory = m.memory

theorem execute_draw {m : Machine} {x y height : Fin 16}
    (h : m.nextWord = ofDigits 0xD x y height) :
    m.execute.1 = ({ m.fetch with display := (m.display.stamp (m.sprite x y height)).1 }.setReg flag
      (Operator.flagOf (m.display.stamp (m.sprite x y height)).2)).count := by
  have hi : decode? m.nextWord = some (.draw x y height) := by
    rw [h]
    exact Instruction.decode?_encode (.draw x y height)
  rw [execute_eq_carryOut hi, Display.stamp, sprite_bytes]
  rfl

theorem execute_draws {m : Machine} {x y height : Fin 16}
    (h : m.nextWord = ofDigits 0xD x y height) :
    Draws m (m.sprite x y height) m.execute.1 := by
  have hshort := m.sprite_short x y height
  have hafter := execute_draw h
  generalize m.sprite x y height = s at hshort hafter ⊢
  have hpicture : ∀ px py, m.execute.1.display.frame.pixel px py =
      (m.display.frame.pixel px py ^^ decide (0 < s.coverage px py)) := by
    intro px py
    rw [hafter, ← Sprite.bodd_coverage hshort]
    exact Display.stamp_pixel _ _ px py
  have hflag : m.execute.1.reg 0xF = Operator.flagOf (m.display.stamp s).2 := by
    rw [hafter]
    exact (reg_setReg _ flag 0xF _).trans (if_pos rfl)
  have hhit : (m.display.stamp s).2 = true ↔ ∃ px py,
      m.display.frame.pixel px py = true ∧ m.execute.1.display.frame.pixel px py = false := by
    rw [Display.stamp_hit_of_short _ hshort]
    refine exists_congr fun px => exists_congr fun py => and_congr_right fun hlit => ?_
    rw [hpicture, hlit]
    simp
  constructor
  · exact hpicture
  · rw [← hhit, hflag]
    cases (m.display.stamp s).2 <;> decide
  · rw [← hhit, hflag]
    cases (m.display.stamp s).2 <;> decide
  · intro r hr
    rw [hafter]
    exact (reg_setReg _ flag r _).trans (if_neg hr.symm)
  · rw [hafter]
    rfl
  · rw [hafter]
    rfl

theorem Draws.sprite_eq {m n : Machine} {s : Sprite} (h : Draws m s n) {x y : Fin 16}
    (hx : x ≠ 0xF) (hy : y ≠ 0xF) (height : Fin 16) :
    n.sprite x y height = m.sprite x y height := by
  simp only [sprite, h.others x hx, h.others y hy, h.index, h.memory]

theorem Draws.picture_back {m n k : Machine} {s : Sprite} (h : Draws m s n) (hagain : Draws n s k) :
    k.display.frame = m.display.frame := by
  apply Frame.ext_pixel
  intro px py
  rw [hagain.picture, h.picture, Bool.xor_assoc, Bool.xor_self, Bool.xor_false]

/- The machine, about to go on at another address. -/
def goingTo (m : Machine) (pc : Int) : Machine := { m with pc := pc }

theorem nextWord_goingTo {m n : Machine} (h : n.memory = m.memory) :
    (n.goingTo m.pc).nextWord = m.nextWord := by
  rw [nextWord, nextWord, ← h]
  rfl

/-- A `Dxyn` flips the pixels of its sprite, which lies at the values that the registers had before,
and sets the flag to one if a lit pixel went dark, else to zero; the index and memory stay. If
neither register is the flag, executing the same word again, wherever it stands, brings the picture
back and sets the flag to one if and only if a covered pixel was dark at first. -/
theorem draw_undone {m : Machine} {x y height : Fin 16}
    (h : m.nextWord = ofDigits 0xD x y height) :
    Draws m (m.sprite x y height) m.execute.1 ∧
    (x ≠ 0xF → y ≠ 0xF → ∀ pc, (m.execute.1.goingTo pc).nextWord = m.nextWord →
      (m.execute.1.goingTo pc).execute.1.display.frame = m.display.frame ∧
      ((m.execute.1.goingTo pc).execute.1.reg 0xF = 1 ↔ ∃ px py,
        0 < (m.sprite x y height).coverage px py ∧ m.display.frame.pixel px py = false)) := by
  have hfirst := execute_draws h
  refine ⟨hfirst, ?_⟩
  intro hx hy pc hword
  have hdrawn : Draws m (m.sprite x y height) (m.execute.1.goingTo pc) := { hfirst with }
  have hsecond : Draws (m.execute.1.goingTo pc) (m.sprite x y height)
      (m.execute.1.goingTo pc).execute.1 := by
    rw [← hdrawn.sprite_eq hx hy height]
    exact execute_draws (hword.trans h)
  have hback := hdrawn.picture_back hsecond
  refine ⟨hback, ?_⟩
  rw [hsecond.collision, hback]
  refine exists_congr fun px => exists_congr fun py => ?_
  -- a pixel that is dark at first and lit between the drawings is one that is covered
  rw [hdrawn.picture]
  cases m.display.frame.pixel px py <;> simp

/- A sprite of five rows in the corner of the screen, so that it wraps on both sides. -/
def cornered : Machine :=
  { (powerOn ⟨fun _ => 0, 0⟩ false).place [0xD0, 0x15] with v := Vector.replicate 16 62 }

theorem cornered_word : cornered.nextWord = ofDigits 0xD 0x0 0x1 0x5 :=
  nextWord_place _ _ 0xD0 0x15

theorem cornered_undone :
    cornered.nextWord = ofDigits 0xD 0x0 0x1 0x5 ∧
      cornered.execute.1.display.frame.pixel 1 0 = true ∧
      (cornered.execute.1.goingTo cornered.pc).execute.1.display.frame = cornered.display.frame ∧
      (cornered.execute.1.goingTo cornered.pc).execute.1.reg 0xF = 1 := by
  obtain ⟨hfirst, hagain⟩ := draw_undone cornered_word
  have hdark : cornered.display.frame.pixel 1 0 = false := by decide +kernel
  have hcovered : 0 < (cornered.sprite 0x0 0x1 0x5).coverage 1 0 := by decide +kernel
  obtain ⟨hback, hflag⟩ := hagain (by decide) (by decide) _ (nextWord_goingTo hfirst.memory)
  refine ⟨cornered_word, ?_, hback, hflag.mpr ⟨1, 0, hcovered, hdark⟩⟩
  rw [hfirst.picture, hdark, decide_eq_true hcovered]
  rfl

end Machine

end Chip8
