/-!
# Instructions

A word of sixteen bits is one of the instructions below, or it is data. `decode?` reads the fields
of a word, `encode` puts them back. Main statements: encoding is undone by decoding, and a word that
decodes is the encoding of its instruction, so an instruction has one word and a word one reading.
-/

namespace Chip8

abbrev Reg := Fin 16

abbrev Word := UInt16

abbrev Target := Fin 4096

/-- Numerals name registers. -/
instance Reg.neZero : @NeZero Nat Zero.ofOfNat0 16 := ⟨by decide⟩

instance Target.neZero : @NeZero Nat Zero.ofOfNat0 4096 := ⟨by decide⟩

/-- The register for carries, borrows and collisions. -/
def flag : Reg := 15

namespace Word

def family (w : Word) : Fin 16 := ⟨w.toNat / 4096, by have := w.toNat_lt; omega⟩

def x (w : Word) : Reg := ⟨w.toNat / 256 % 16, by omega⟩

/-- The third digit: the register that is usually only read. -/
def y (w : Word) : Reg := ⟨w.toNat / 16 % 16, by omega⟩

def n (w : Word) : Fin 16 := ⟨w.toNat % 16, by omega⟩

def nn (w : Word) : UInt8 := UInt8.ofNat (w.toNat % 256)

def nnn (w : Word) : Target := ⟨w.toNat % 4096, by omega⟩

def ofDigits (a b c d : Fin 16) : Word :=
  UInt16.ofNat (4096 * a.val + 256 * b.val + 16 * c.val + d.val)

def ofByte (a : Fin 16) (x : Reg) (nn : UInt8) : Word :=
  UInt16.ofNat (4096 * a.val + 256 * x.val + nn.toNat)

def ofTarget (a : Fin 16) (nnn : Target) : Word :=
  UInt16.ofNat (4096 * a.val + nnn.val)

def ofBytes (high low : UInt8) : Word :=
  UInt16.ofNat (256 * high.toNat + low.toNat)

def ofInt (n : Int) : Word := UInt16.ofNat (n % 65536).toNat

theorem ofDigits_toNat (a b c d : Fin 16) :
    (ofDigits a b c d).toNat = 4096 * a.val + 256 * b.val + 16 * c.val + d.val := by
  simp only [ofDigits, UInt16.toNat_ofNat']
  omega

theorem ofByte_toNat (a : Fin 16) (x : Reg) (nn : UInt8) :
    (ofByte a x nn).toNat = 4096 * a.val + 256 * x.val + nn.toNat := by
  have := nn.toNat_lt
  simp only [ofByte, UInt16.toNat_ofNat']
  omega

theorem ofTarget_toNat (a : Fin 16) (nnn : Target) :
    (ofTarget a nnn).toNat = 4096 * a.val + nnn.val := by
  simp only [ofTarget, UInt16.toNat_ofNat']
  omega

theorem ofBytes_toNat (high low : UInt8) :
    (ofBytes high low).toNat = 256 * high.toNat + low.toNat := by
  have := high.toNat_lt
  have := low.toNat_lt
  simp only [ofBytes, UInt16.toNat_ofNat']
  omega

theorem ofInt_toNat (k : Int) : (ofInt k).toNat = (k % 65536).toNat := by
  simp only [ofInt, UInt16.toNat_ofNat']
  omega

theorem nn_toNat (w : Word) : (nn w).toNat = w.toNat % 256 := by
  simp only [nn, UInt8.toNat_ofNat']
  omega

theorem ofDigits_family (w : Word) : ofDigits (family w) (x w) (y w) (n w) = w := by
  apply UInt16.toNat_inj.mp
  rw [ofDigits_toNat]
  simp only [family, x, y, n]
  omega

theorem ofByte_family (w : Word) : ofByte (family w) (x w) (nn w) = w := by
  apply UInt16.toNat_inj.mp
  rw [ofByte_toNat, nn_toNat]
  simp only [family, x]
  omega

theorem ofTarget_family (w : Word) : ofTarget (family w) (nnn w) = w := by
  apply UInt16.toNat_inj.mp
  rw [ofTarget_toNat]
  simp only [family, nnn]
  omega

@[simp]
theorem family_ofDigits (a b c d : Fin 16) : family (ofDigits a b c d) = a := by
  apply Fin.ext
  simp only [family, ofDigits_toNat]
  omega

@[simp]
theorem x_ofDigits (a b c d : Fin 16) : x (ofDigits a b c d) = b := by
  apply Fin.ext
  simp only [x, ofDigits_toNat]
  omega

@[simp]
theorem y_ofDigits (a b c d : Fin 16) : y (ofDigits a b c d) = c := by
  apply Fin.ext
  simp only [y, ofDigits_toNat]
  omega

@[simp]
theorem n_ofDigits (a b c d : Fin 16) : n (ofDigits a b c d) = d := by
  apply Fin.ext
  simp only [n, ofDigits_toNat]
  omega

@[simp]
theorem family_ofByte (a : Fin 16) (r : Reg) (b : UInt8) : family (ofByte a r b) = a := by
  have := b.toNat_lt
  apply Fin.ext
  simp only [family, ofByte_toNat]
  omega

@[simp]
theorem x_ofByte (a : Fin 16) (r : Reg) (b : UInt8) : x (ofByte a r b) = r := by
  have := b.toNat_lt
  apply Fin.ext
  simp only [x, ofByte_toNat]
  omega

@[simp]
theorem nn_ofByte (a : Fin 16) (r : Reg) (b : UInt8) : nn (ofByte a r b) = b := by
  have := b.toNat_lt
  apply UInt8.toNat_inj.mp
  rw [nn_toNat, ofByte_toNat]
  omega

@[simp]
theorem family_ofTarget (a : Fin 16) (t : Target) : family (ofTarget a t) = a := by
  apply Fin.ext
  simp only [family, ofTarget_toNat]
  omega

@[simp]
theorem nnn_ofTarget (a : Fin 16) (t : Target) : nnn (ofTarget a t) = t := by
  apply Fin.ext
  simp only [nnn, ofTarget_toNat]
  omega

theorem eq_ofTarget {w : Word} {a : Fin 16} {t : Target}
    (ha : (family w).val = a.val) (ht : (nnn w).val = t.val) : ofTarget a t = w := by
  rw [← Fin.ext ha, ← Fin.ext ht, ofTarget_family]

theorem eq_ofByte {w : Word} {a : Fin 16} {b : UInt8}
    (ha : (family w).val = a.val) (hb : (nn w).toNat = b.toNat) : ofByte a (x w) b = w := by
  rw [← Fin.ext ha, ← UInt8.toNat_inj.mp hb, ofByte_family]

theorem eq_ofDigits {w : Word} {a d : Fin 16}
    (ha : (family w).val = a.val) (hd : (n w).val = d.val) : ofDigits a (x w) (y w) d = w := by
  rw [← Fin.ext ha, ← Fin.ext hd, ofDigits_family]

end Word

inductive Operator where
  | copy | or | and | xor | add | sub | shiftRight | subFrom | shiftLeft
  deriving DecidableEq, Repr

/-- The instructions; the nine operators share one constructor. -/
inductive Instruction where
  | clear
  | ret
  | jump (target : Target)
  | call (target : Target)
  | skipIfByte (x : Reg) (value : UInt8)
  | skipUnlessByte (x : Reg) (value : UInt8)
  | skipIfEqual (x y : Reg)
  | loadByte (x : Reg) (value : UInt8)
  | addByte (x : Reg) (value : UInt8)
  | operate (op : Operator) (x y : Reg)
  | skipUnlessEqual (x y : Reg)
  | setIndex (target : Target)
  | jumpFrom (target : Target)
  | random (x : Reg) (mask : UInt8)
  | draw (x y : Reg) (height : Fin 16)
  | skipIfKey (x : Reg)
  | skipUnlessKey (x : Reg)
  | readDelay (x : Reg)
  | awaitKey (x : Reg)
  | setDelay (x : Reg)
  | setSound (x : Reg)
  | addIndex (x : Reg)
  | glyph (x : Reg)
  | digits (x : Reg)
  | save (x : Reg)
  | restore (x : Reg)
  deriving DecidableEq, Repr

namespace Operator

def code : Operator → Fin 16
  | copy => 0
  | or => 1
  | and => 2
  | xor => 3
  | add => 4
  | sub => 5
  | shiftRight => 6
  | subFrom => 7
  | shiftLeft => 14

def ofCode? (d : Fin 16) : Option Operator :=
  match d.val with
  | 0 => some copy
  | 1 => some or
  | 2 => some and
  | 3 => some xor
  | 4 => some add
  | 5 => some sub
  | 6 => some shiftRight
  | 7 => some subFrom
  | 14 => some shiftLeft
  | _ => none

theorem ofCode?_eq_some_iff (d : Fin 16) (op : Operator) : ofCode? d = some op ↔ d = op.code := by
  revert d
  cases op <;> decide

end Operator

namespace Instruction

/-- The instruction of a family whose words select a register and a low byte. -/
def ofKeyByte? (x : Reg) (nn : Nat) : Option Instruction :=
  match nn with
  | 0x9E => some (skipIfKey x)
  | 0xA1 => some (skipUnlessKey x)
  | _ => none

def ofDeviceByte? (x : Reg) (nn : Nat) : Option Instruction :=
  match nn with
  | 0x07 => some (readDelay x)
  | 0x0A => some (awaitKey x)
  | 0x15 => some (setDelay x)
  | 0x18 => some (setSound x)
  | 0x1E => some (addIndex x)
  | 0x29 => some (glyph x)
  | 0x33 => some (digits x)
  | 0x55 => some (save x)
  | 0x65 => some (restore x)
  | _ => none

def decode? (w : Word) : Option Instruction :=
  match (Word.family w).val with
  | 0x0 =>
    match (Word.nnn w).val with
    | 0x0E0 => some clear
    | 0x0EE => some ret
    | _ => none
  | 0x1 => some (jump (Word.nnn w))
  | 0x2 => some (call (Word.nnn w))
  | 0x3 => some (skipIfByte (Word.x w) (Word.nn w))
  | 0x4 => some (skipUnlessByte (Word.x w) (Word.nn w))
  | 0x5 => if (Word.n w).val = 0 then some (skipIfEqual (Word.x w) (Word.y w)) else none
  | 0x6 => some (loadByte (Word.x w) (Word.nn w))
  | 0x7 => some (addByte (Word.x w) (Word.nn w))
  | 0x8 => (Operator.ofCode? (Word.n w)).map fun op => operate op (Word.x w) (Word.y w)
  | 0x9 => if (Word.n w).val = 0 then some (skipUnlessEqual (Word.x w) (Word.y w)) else none
  | 0xA => some (setIndex (Word.nnn w))
  | 0xB => some (jumpFrom (Word.nnn w))
  | 0xC => some (random (Word.x w) (Word.nn w))
  | 0xD => some (draw (Word.x w) (Word.y w) (Word.n w))
  | 0xE => ofKeyByte? (Word.x w) (Word.nn w).toNat
  | 0xF => ofDeviceByte? (Word.x w) (Word.nn w).toNat
  | _ => none

def encode : Instruction → Word
  | clear => Word.ofTarget 0x0 0x0E0
  | ret => Word.ofTarget 0x0 0x0EE
  | jump t => Word.ofTarget 0x1 t
  | call t => Word.ofTarget 0x2 t
  | skipIfByte x b => Word.ofByte 0x3 x b
  | skipUnlessByte x b => Word.ofByte 0x4 x b
  | skipIfEqual x y => Word.ofDigits 0x5 x y 0
  | loadByte x b => Word.ofByte 0x6 x b
  | addByte x b => Word.ofByte 0x7 x b
  | operate op x y => Word.ofDigits 0x8 x y op.code
  | skipUnlessEqual x y => Word.ofDigits 0x9 x y 0
  | setIndex t => Word.ofTarget 0xA t
  | jumpFrom t => Word.ofTarget 0xB t
  | random x b => Word.ofByte 0xC x b
  | draw x y h => Word.ofDigits 0xD x y h
  | skipIfKey x => Word.ofByte 0xE x 0x9E
  | skipUnlessKey x => Word.ofByte 0xE x 0xA1
  | readDelay x => Word.ofByte 0xF x 0x07
  | awaitKey x => Word.ofByte 0xF x 0x0A
  | setDelay x => Word.ofByte 0xF x 0x15
  | setSound x => Word.ofByte 0xF x 0x18
  | addIndex x => Word.ofByte 0xF x 0x1E
  | glyph x => Word.ofByte 0xF x 0x29
  | digits x => Word.ofByte 0xF x 0x33
  | save x => Word.ofByte 0xF x 0x55
  | restore x => Word.ofByte 0xF x 0x65

theorem decode?_encode (i : Instruction) : decode? i.encode = some i := by
  cases i with
  | operate op x y =>
    simp only [encode, decode?, Word.family_ofDigits, Word.x_ofDigits, Word.y_ofDigits,
      Word.n_ofDigits]
    cases op <;> rfl
  | _ =>
    simp only [encode, decode?, Word.family_ofDigits, Word.x_ofDigits, Word.y_ofDigits,
      Word.n_ofDigits, Word.family_ofByte, Word.x_ofByte, Word.nn_ofByte, Word.family_ofTarget,
      Word.nnn_ofTarget]
    rfl

theorem encode_ofKeyByte? {w : Word} {i : Instruction} (hw : (Word.family w).val = 0xE)
    (h : ofKeyByte? (Word.x w) (Word.nn w).toNat = some i) : i.encode = w := by
  unfold ofKeyByte? at h
  split at h <;> cases h <;> (rename_i hn; exact Word.eq_ofByte hw hn)

theorem encode_ofDeviceByte? {w : Word} {i : Instruction} (hw : (Word.family w).val = 0xF)
    (h : ofDeviceByte? (Word.x w) (Word.nn w).toNat = some i) : i.encode = w := by
  unfold ofDeviceByte? at h
  split at h <;> cases h <;> (rename_i hn; exact Word.eq_ofByte hw hn)

theorem encode_of_decode? {w : Word} {i : Instruction} (h : decode? w = some i) : i.encode = w := by
  unfold decode? at h
  split at h
  case h_1 hw =>
    split at h
    · cases h; rename_i hn; exact Word.eq_ofTarget hw hn
    · cases h; rename_i hn; exact Word.eq_ofTarget hw hn
    · cases h
  case h_6 hw =>
    split at h
    · cases h; rename_i hn; exact Word.eq_ofDigits hw hn
    · cases h
  case h_9 hw =>
    obtain ⟨op, hop, rfl⟩ := Option.map_eq_some_iff.mp h
    exact Word.eq_ofDigits hw (congrArg Fin.val ((Operator.ofCode?_eq_some_iff _ op).mp hop))
  case h_10 hw =>
    split at h
    · cases h; rename_i hn; exact Word.eq_ofDigits hw hn
    · cases h
  case h_15 hw => exact encode_ofKeyByte? hw h
  case h_16 hw => exact encode_ofDeviceByte? hw h
  case h_17 => cases h
  case h_14 hw => cases h; exact Word.eq_ofDigits hw rfl
  case h_2 hw => cases h; exact Word.eq_ofTarget hw rfl
  case h_3 hw => cases h; exact Word.eq_ofTarget hw rfl
  case h_11 hw => cases h; exact Word.eq_ofTarget hw rfl
  case h_12 hw => cases h; exact Word.eq_ofTarget hw rfl
  case h_4 hw => cases h; exact Word.eq_ofByte hw rfl
  case h_5 hw => cases h; exact Word.eq_ofByte hw rfl
  case h_7 hw => cases h; exact Word.eq_ofByte hw rfl
  case h_8 hw => cases h; exact Word.eq_ofByte hw rfl
  case h_13 hw => cases h; exact Word.eq_ofByte hw rfl

theorem decode?_eq_some_iff (w : Word) (i : Instruction) : decode? w = some i ↔ i.encode = w :=
  ⟨encode_of_decode?, fun h => h ▸ decode?_encode i⟩

end Instruction

end Chip8
