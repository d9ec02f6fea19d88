import Chip8.Instruction.Basic

/-!
# The instruction set

The words that are instructions, one form for each: the fixed digits stand as numerals, the others
are free. `decode?_isSome_iff` says that these are the words that decode.
-/

namespace Chip8

open Word (ofDigits)

/-- The forms `00E0`, `00EE`, `1nnn`, ..., `Fx65` of the instruction set. -/
inductive IsOpcode : Word → Prop
  | clear : IsOpcode (ofDigits 0x0 0x0 0xE 0x0)
  | ret : IsOpcode (ofDigits 0x0 0x0 0xE 0xE)
  | jump (a b c : Fin 16) : IsOpcode (ofDigits 0x1 a b c)
  | call (a b c : Fin 16) : IsOpcode (ofDigits 0x2 a b c)
  | skipIfByte (x b c : Fin 16) : IsOpcode (ofDigits 0x3 x b c)
  | skipUnlessByte (x b c : Fin 16) : IsOpcode (ofDigits 0x4 x b c)
  | skipIfEqual (x y : Fin 16) : IsOpcode (ofDigits 0x5 x y 0x0)
  | loadByte (x b c : Fin 16) : IsOpcode (ofDigits 0x6 x b c)
  | addByte (x b c : Fin 16) : IsOpcode (ofDigits 0x7 x b c)
  | copy (x y : Fin 16) : IsOpcode (ofDigits 0x8 x y 0x0)
  | or (x y : Fin 16) : IsOpcode (ofDigits 0x8 x y 0x1)
  | and (x y : Fin 16) : IsOpcode (ofDigits 0x8 x y 0x2)
  | xor (x y : Fin 16) : IsOpcode (ofDigits 0x8 x y 0x3)
  | add (x y : Fin 16) : IsOpcode (ofDigits 0x8 x y 0x4)
  | sub (x y : Fin 16) : IsOpcode (ofDigits 0x8 x y 0x5)
  | shiftRight (x y : Fin 16) : IsOpcode (ofDigits 0x8 x y 0x6)
  | subFrom (x y : Fin 16) : IsOpcode (ofDigits 0x8 x y 0x7)
  | shiftLeft (x y : Fin 16) : IsOpcode (ofDigits 0x8 x y 0xE)
  | skipUnlessEqual (x y : Fin 16) : IsOpcode (ofDigits 0x9 x y 0x0)
  | setIndex (a b c : Fin 16) : IsOpcode (ofDigits 0xA a b c)
  | jumpFrom (a b c : Fin 16) : IsOpcode (ofDigits 0xB a b c)
  | random (x b c : Fin 16) : IsOpcode (ofDigits 0xC x b c)
  | draw (x y n : Fin 16) : IsOpcode (ofDigits 0xD x y n)
  | skipIfKey (x : Fin 16) : IsOpcode (ofDigits 0xE x 0x9 0xE)
  | skipUnlessKey (x : Fin 16) : IsOpcode (ofDigits 0xE x 0xA 0x1)
  | readDelay (x : Fin 16) : IsOpcode (ofDigits 0xF x 0x0 0x7)
  | awaitKey (x : Fin 16) : IsOpcode (ofDigits 0xF x 0x0 0xA)
  | setDelay (x : Fin 16) : IsOpcode (ofDigits 0xF x 0x1 0x5)
  | setSound (x : Fin 16) : IsOpcode (ofDigits 0xF x 0x1 0x8)
  | addIndex (x : Fin 16) : IsOpcode (ofDigits 0xF x 0x1 0xE)
  | glyph (x : Fin 16) : IsOpcode (ofDigits 0xF x 0x2 0x9)
  | digits (x : Fin 16) : IsOpcode (ofDigits 0xF x 0x3 0x3)
  | save (x : Fin 16) : IsOpcode (ofDigits 0xF x 0x5 0x5)
  | restore (x : Fin 16) : IsOpcode (ofDigits 0xF x 0x6 0x5)

namespace Word

theorem nn_ofDigits (a b c d : Fin 16) : (nn (ofDigits a b c d)).toNat = 16 * c.val + d.val := by
  rw [nn_toNat, ofDigits_toNat]
  omega

/-- The digits of a word that is given by its low byte. -/
theorem ofByte_eq_ofDigits (a : Fin 16) (r : Reg) (b : UInt8) :
    ofByte a r b = ofDigits a r (y (ofByte a r b)) (n (ofByte a r b)) := by
  have h := ofDigits_family (ofByte a r b)
  rw [family_ofByte, x_ofByte] at h
  exact h.symm

theorem ofByte_of_digits {a r c d : Fin 16} {b : UInt8} (hb : 16 * c.val + d.val = b.toNat) :
    ofByte a r b = ofDigits a r c d := by
  apply UInt16.toNat_inj.mp
  rw [ofDigits_toNat, ofByte_toNat]
  omega

theorem ofTarget_eq_ofDigits (a : Fin 16) (t : Target) :
    ofTarget a t =
      ofDigits a (x (ofTarget a t)) (y (ofTarget a t)) (n (ofTarget a t)) := by
  have h := ofDigits_family (ofTarget a t)
  rw [family_ofTarget] at h
  exact h.symm

end Word

/-- A form that fixes the low byte, with the byte in one piece. -/
theorem IsOpcode.ofByte {a r c d : Fin 16} {b : UInt8} (h : IsOpcode (ofDigits a r c d))
    (hb : 16 * c.val + d.val = b.toNat) : IsOpcode (Word.ofByte a r b) := by
  rw [Word.ofByte_of_digits hb]
  exact h

namespace Instruction

theorem encode_isOpcode (i : Instruction) : IsOpcode i.encode := by
  cases i with
  | clear => exact .clear
  | ret => exact .ret
  | jump t => rw [encode, Word.ofTarget_eq_ofDigits]; exact .jump _ _ _
  | call t => rw [encode, Word.ofTarget_eq_ofDigits]; exact .call _ _ _
  | setIndex t => rw [encode, Word.ofTarget_eq_ofDigits]; exact .setIndex _ _ _
  | jumpFrom t => rw [encode, Word.ofTarget_eq_ofDigits]; exact .jumpFrom _ _ _
  | skipIfByte x b => rw [encode, Word.ofByte_eq_ofDigits]; exact .skipIfByte _ _ _
  | skipUnlessByte x b => rw [encode, Word.ofByte_eq_ofDigits]; exact .skipUnlessByte _ _ _
  | loadByte x b => rw [encode, Word.ofByte_eq_ofDigits]; exact .loadByte _ _ _
  | addByte x b => rw [encode, Word.ofByte_eq_ofDigits]; exact .addByte _ _ _
  | random x b => rw [encode, Word.ofByte_eq_ofDigits]; exact .random _ _ _
  | skipIfEqual x y => exact .skipIfEqual x y
  | skipUnlessEqual x y => exact .skipUnlessEqual x y
  | draw x y h => exact .draw x y h
  | operate op x y =>
    cases op with
    | copy => exact .copy x y
    | or => exact .or x y
    | and => exact .and x y
    | xor => exact .xor x y
    | add => exact .add x y
    | sub => exact .sub x y
    | shiftRight => exact .shiftRight x y
    | subFrom => exact .subFrom x y
    | shiftLeft => exact .shiftLeft x y
  | skipIfKey x => exact (IsOpcode.skipIfKey x).ofByte rfl
  | skipUnlessKey x => exact (IsOpcode.skipUnlessKey x).ofByte rfl
  | readDelay x => exact (IsOpcode.readDelay x).ofByte rfl
  | awaitKey x => exact (IsOpcode.awaitKey x).ofByte rfl
  | setDelay x => exact (IsOpcode.setDelay x).ofByte rfl
  | setSound x => exact (IsOpcode.setSound x).ofByte rfl
  | addIndex x => exact (IsOpcode.addIndex x).ofByte rfl
  | glyph x => exact (IsOpcode.glyph x).ofByte rfl
  | digits x => exact (IsOpcode.digits x).ofByte rfl
  | save x => exact (IsOpcode.save x).ofByte rfl
  | restore x => exact (IsOpcode.restore x).ofByte rfl

/-- The digits of an instruction that is given by its low byte. -/
theorem decode?_eq_digits_iff {i : Instruction} {a r c d : Fin 16} {b : UInt8}
    (hi : i.encode = Word.ofByte a r b) (hb : 16 * c.val + d.val = b.toNat) (w : Word) :
    decode? w = some i ↔ w = ofDigits a r c d := by
  rw [decode?_eq_some_iff, hi, Word.ofByte_of_digits hb, eq_comm]

theorem decode?_isSome_of_isOpcode {w : Word} (h : IsOpcode w) : (decode? w).isSome = true := by
  cases h with
  | clear => rfl
  | ret => rfl
  | _ =>
    simp only [decode?, Word.family_ofDigits, Word.n_ofDigits, Word.nn_ofDigits]
    rfl

/-- The words that decode are the words of the instruction set. -/
theorem decode?_isSome_iff (w : Word) : (decode? w).isSome = true ↔ IsOpcode w := by
  constructor
  · intro h
    obtain ⟨i, hi⟩ := Option.isSome_iff_exists.mp h
    rw [← encode_of_decode? hi]
    exact encode_isOpcode i
  · exact decode?_isSome_of_isOpcode

theorem decode?_eq_none_iff (w : Word) : decode? w = none ↔ ¬IsOpcode w := by
  rw [← decode?_isSome_iff, Bool.not_eq_true, Option.isSome_eq_false_iff, Option.isNone_iff_eq_none]

end Instruction

instance (w : Word) : Decidable (IsOpcode w) :=
  decidable_of_iff _ (Instruction.decode?_isSome_iff w)

end Chip8
