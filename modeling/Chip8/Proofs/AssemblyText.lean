import Chip8.Proofs.Effects
import Chip8.Proofs.InstructionSet

/-!
# What the text of a word shows

A line of assembly is a mnemonic and a list of operands. A line can be read back
(`line_injective`), so the text of an instruction shows that instruction and no other, and is never
a data directive. With that, executing a word is carrying out the instruction that its text shows.
-/

namespace Chip8

namespace Text

theorem hexLength_le {k n : Nat} (hk : 0 < k) (hn : n < Nat.pow 16 k) : hexLength n ≤ k := by
  unfold hexLength
  by_cases h0 : n = 0
  · subst h0
    exact hk
  · have hp : (16 : Nat) ^ k = 2 ^ (4 * k) := by rw [Nat.pow_mul]
    have hl : n.log2 < 4 * k := (Nat.log2_lt h0).mpr (hp ▸ hn)
    omega

/-- A number that fits the width takes exactly the width. -/
theorem hexNat_toList {k n : Nat} (hk : 0 < k) (hn : n < Nat.pow 16 k) :
    (hexNat k n).toList = hexDigits k n := by
  rw [hexNat, String.toList_ofList, Nat.max_eq_left (hexLength_le hk hn)]

theorem mem_hexDigits {c : Char} {k n : Nat} (h : c ∈ hexDigits k n) :
    ∃ d : Fin 16, c = hexDigit d.val := by
  induction k generalizing n with
  | zero => cases h
  | succ k ih =>
    rw [hexDigits, List.mem_append, List.mem_singleton] at h
    rcases h with h | h
    · exact ih h
    · exact ⟨⟨n % 16, Nat.mod_lt n (by decide)⟩, h⟩

theorem hexDigits_not_mem {c : Char} (hc : ∀ d : Fin 16, hexDigit d.val ≠ c) (k n : Nat) :
    c ∉ hexDigits k n := by
  intro h
  obtain ⟨d, hd⟩ := mem_hexDigits h
  exact hc d hd.symm

end Text

namespace Assembly

open Text (hexDigits hexNumber)
open Instruction (decode?)

/-! ### Mnemonics and operands -/

inductive Mnemonic where
  | cls | ret | jp | call | se | sne | ld | add | or | and | xor | sub | shr | subn | shl | rnd
  | drw | skp | sknp | dw
  deriving DecidableEq, Repr

namespace Mnemonic

def chars : Mnemonic → List Char
  | cls => ['C', 'L', 'S']
  | ret => ['R', 'E', 'T']
  | jp => ['J', 'P']
  | call => ['C', 'A', 'L', 'L']
  | se => ['S', 'E']
  | sne => ['S', 'N', 'E']
  | ld => ['L', 'D']
  | add => ['A', 'D', 'D']
  | or => ['O', 'R']
  | and => ['A', 'N', 'D']
  | xor => ['X', 'O', 'R']
  | sub => ['S', 'U', 'B']
  | shr => ['S', 'H', 'R']
  | subn => ['S', 'U', 'B', 'N']
  | shl => ['S', 'H', 'L']
  | rnd => ['R', 'N', 'D']
  | drw => ['D', 'R', 'W']
  | skp => ['S', 'K', 'P']
  | sknp => ['S', 'K', 'N', 'P']
  | dw => ['D', 'W']

def all : List Mnemonic :=
  [cls, ret, jp, call, se, sne, ld, add, or, and, xor, sub, shr, subn, shl, rnd, drw, skp, sknp, dw]

theorem find?_chars (m : Mnemonic) : all.find? (fun k => k.chars = m.chars) = some m := by
  cases m <;> rfl

theorem chars_injective {m k : Mnemonic} (h : m.chars = k.chars) : m = k := by
  have hm := find?_chars m
  rw [h, find?_chars] at hm
  exact (Option.some.inj hm).symm

theorem blank_not_mem_chars (m : Mnemonic) : ' ' ∉ m.chars := by
  cases m <;> decide

end Mnemonic

/-- An operand: a register, a number of fixed width, a sprite height, or something that has a name.
-/
inductive Operand where
  | register (r : Reg)
  | byte (b : UInt8)
  | target (t : Target)
  | word (w : Word)
  | height (h : Fin 16)
  | index | block | delay | sound | key | font | decimal
  deriving DecidableEq, Repr

namespace Operand

def chars : Operand → List Char
  | register r => 'V' :: hexDigits 1 r.val
  | byte b => '0' :: 'x' :: hexDigits 2 b.toNat
  | target t => '0' :: 'x' :: hexDigits 3 t.val
  | word w => '0' :: 'x' :: hexDigits 4 w.toNat
  | height h => Nat.toDigits 10 h.val
  | index => ['I']
  | block => ['[', 'I', ']']
  | delay => ['D', 'T']
  | sound => ['S', 'T']
  | key => ['K']
  | font => ['F']
  | decimal => ['B']

def read : List Char → Operand
  | ['I'] => index
  | ['[', 'I', ']'] => block
  | ['D', 'T'] => delay
  | ['S', 'T'] => sound
  | ['K'] => key
  | ['F'] => font
  | ['B'] => decimal
  | ['V', d] => register (Fin.ofNat 16 (hexNumber [d]))
  | ['0', 'x', d, e] => byte (UInt8.ofNat (hexNumber [d, e]))
  | ['0', 'x', d, e, f] => target (Fin.ofNat 4096 (hexNumber [d, e, f]))
  | ['0', 'x', d, e, f, g] => word (UInt16.ofNat (hexNumber [d, e, f, g]))
  | ds => height (Fin.ofNat 16 (Nat.ofDigitChars 10 ds 0))

theorem read_chars (o : Operand) : read o.chars = o := by
  cases o with
  | register r =>
    show register (Fin.ofNat 16 (hexNumber (hexDigits 1 r.val))) = register r
    rw [Text.hexNumber_hexDigits 1 r.val r.isLt]
    simp
  | byte b =>
    show byte (UInt8.ofNat (hexNumber (hexDigits 2 b.toNat))) = byte b
    rw [Text.hexNumber_hexDigits 2 b.toNat b.toNat_lt]
    simp
  | target t =>
    show target (Fin.ofNat 4096 (hexNumber (hexDigits 3 t.val))) = target t
    rw [Text.hexNumber_hexDigits 3 t.val t.isLt]
    simp
  | word w =>
    show word (UInt16.ofNat (hexNumber (hexDigits 4 w.toNat))) = word w
    rw [Text.hexNumber_hexDigits 4 w.toNat w.toNat_lt]
    simp
  | height h => decide +revert
  | _ => rfl

theorem chars_injective {o p : Operand} (h : o.chars = p.chars) : o = p := by
  rw [← read_chars o, h, read_chars]

/-- Blanks and commas separate operands and do not stand in them. -/
theorem separator_not_mem_chars (o : Operand) {c : Char} (hc : c = ' ' ∨ c = ',') :
    c ∉ o.chars := by
  have hd : ∀ k n, c ∉ hexDigits k n := by
    rcases hc with rfl | rfl <;> exact Text.hexDigits_not_mem (by decide)
  cases o with
  | height h => rcases hc with rfl | rfl <;> decide +revert
  | _ => rcases hc with rfl | rfl <;> simp [chars, hd]

end Operand

/-! ### Lines -/

/-- Operands as they stand in a line: each but the last is followed by a comma. -/
def punctuate : List (List Char) → List (List Char)
  | [] => []
  | [o] => [o]
  | o :: p :: rest => (o ++ [',']) :: punctuate (p :: rest)

def line (m : Mnemonic) (os : List Operand) : List Char :=
  [' '].intercalate (m.chars :: punctuate (os.map Operand.chars))

theorem blank_not_mem_punctuate {os : List (List Char)} (h : ∀ o ∈ os, ' ' ∉ o) :
    ∀ o ∈ punctuate os, ' ' ∉ o := by
  fun_induction punctuate os with
  | case1 => exact h
  | case2 o => exact h
  | case3 o p rest ih =>
    rw [List.forall_mem_cons] at h
    rw [List.forall_mem_cons]
    refine ⟨?_, ih h.2⟩
    simpa using h.1

theorem filter_punctuate {os : List (List Char)} (h : ∀ o ∈ os, ',' ∉ o) :
    (punctuate os).map (List.filter (· ≠ ',')) = os := by
  have keep : ∀ o : List Char, ',' ∉ o → o.filter (· ≠ ',') = o := by
    intro o ho
    refine List.filter_eq_self.mpr fun c hc => ?_
    have hne : c ≠ ',' := fun he => ho (he ▸ hc)
    simpa using hne
  fun_induction punctuate os with
  | case1 => rfl
  | case2 o =>
    rw [List.map_singleton, keep o (h o (by simp))]
  | case3 o p rest ih =>
    rw [List.forall_mem_cons] at h
    rw [List.map_cons, ih h.2, List.filter_append, keep o h.1]
    simp

theorem splitOn_line (m : Mnemonic) (os : List Operand) :
    (line m os).splitOn ' ' = m.chars :: punctuate (os.map Operand.chars) := by
  refine List.splitOn_intercalate ' ' ?_ (List.cons_ne_nil _ _)
  rw [List.forall_mem_cons]
  refine ⟨m.blank_not_mem_chars, blank_not_mem_punctuate ?_⟩
  intro o ho
  obtain ⟨p, -, rfl⟩ := List.mem_map.mp ho
  exact p.separator_not_mem_chars (.inl rfl)

theorem comma_not_mem_chars (os : List Operand) : ∀ o ∈ os.map Operand.chars, ',' ∉ o := by
  intro o ho
  obtain ⟨p, -, rfl⟩ := List.mem_map.mp ho
  exact p.separator_not_mem_chars (.inr rfl)

theorem punctuate_injective {os ps : List Operand}
    (h : punctuate (os.map Operand.chars) = punctuate (ps.map Operand.chars)) : os = ps := by
  -- a comma comes only from the punctuation, so dropping all commas undoes it
  have he : os.map Operand.chars = ps.map Operand.chars := by
    rw [← filter_punctuate (comma_not_mem_chars os), h, filter_punctuate (comma_not_mem_chars ps)]
  exact List.map_inj_right (fun _ _ => Operand.chars_injective) |>.mp he

/-- A line has one mnemonic and one list of operands. -/
theorem line_injective {m k : Mnemonic} {os ps : List Operand} (h : line m os = line k ps) :
    m = k ∧ os = ps := by
  have hs := congrArg (List.splitOn ' ') h
  rw [splitOn_line, splitOn_line, List.cons.injEq] at hs
  exact ⟨Mnemonic.chars_injective hs.1, punctuate_injective hs.2⟩

theorem line_one (m : Mnemonic) (o : Operand) : line m [o] = m.chars ++ ' ' :: o.chars := by
  simp [line, punctuate, List.intercalate]

theorem line_two (m : Mnemonic) (o p : Operand) :
    line m [o, p] = m.chars ++ ' ' :: (o.chars ++ ',' :: ' ' :: p.chars) := by
  simp [line, punctuate, List.intercalate]

theorem line_three (m : Mnemonic) (o p q : Operand) :
    line m [o, p, q] =
      m.chars ++ ' ' :: (o.chars ++ ',' :: ' ' :: (p.chars ++ ',' :: ' ' :: q.chars)) := by
  simp [line, punctuate, List.intercalate]

/-! ### The lines of instructions -/

def sign : Operator → Mnemonic
  | .copy => .ld
  | .or => .or
  | .and => .and
  | .xor => .xor
  | .add => .add
  | .sub => .sub
  | .shiftRight => .shr
  | .subFrom => .subn
  | .shiftLeft => .shl

def parts : Instruction → Mnemonic × List Operand
  | .clear => (.cls, [])
  | .ret => (.ret, [])
  | .jump t => (.jp, [.target t])
  | .call t => (.call, [.target t])
  | .skipIfByte x b => (.se, [.register x, .byte b])
  | .skipUnlessByte x b => (.sne, [.register x, .byte b])
  | .skipIfEqual x y => (.se, [.register x, .register y])
  | .loadByte x b => (.ld, [.register x, .byte b])
  | .addByte x b => (.add, [.register x, .byte b])
  | .operate op x y => (sign op, [.register x, .register y])
  | .skipUnlessEqual x y => (.sne, [.register x, .register y])
  | .setIndex t => (.ld, [.index, .target t])
  | .jumpFrom t => (.jp, [.register 0, .target t])
  | .random x b => (.rnd, [.register x, .byte b])
  | .draw x y h => (.drw, [.register x, .register y, .height h])
  | .skipIfKey x => (.skp, [.register x])
  | .skipUnlessKey x => (.sknp, [.register x])
  | .readDelay x => (.ld, [.register x, .delay])
  | .awaitKey x => (.ld, [.register x, .key])
  | .setDelay x => (.ld, [.delay, .register x])
  | .setSound x => (.ld, [.sound, .register x])
  | .addIndex x => (.add, [.index, .register x])
  | .glyph x => (.ld, [.font, .register x])
  | .digits x => (.ld, [.decimal, .register x])
  | .save x => (.ld, [.block, .register x])
  | .restore x => (.ld, [.register x, .block])

def ofParts? : Mnemonic → List Operand → Option Instruction
  | .cls, [] => some .clear
  | .ret, [] => some .ret
  | .jp, [.target t] => some (.jump t)
  | .call, [.target t] => some (.call t)
  | .se, [.register x, .byte b] => some (.skipIfByte x b)
  | .sne, [.register x, .byte b] => some (.skipUnlessByte x b)
  | .se, [.register x, .register y] => some (.skipIfEqual x y)
  | .ld, [.register x, .byte b] => some (.loadByte x b)
  | .add, [.register x, .byte b] => some (.addByte x b)
  | .ld, [.register x, .register y] => some (.operate .copy x y)
  | .or, [.register x, .register y] => some (.operate .or x y)
  | .and, [.register x, .register y] => some (.operate .and x y)
  | .xor, [.register x, .register y] => some (.operate .xor x y)
  | .add, [.register x, .register y] => some (.operate .add x y)
  | .sub, [.register x, .register y] => some (.operate .sub x y)
  | .shr, [.register x, .register y] => some (.operate .shiftRight x y)
  | .subn, [.register x, .register y] => some (.operate .subFrom x y)
  | .shl, [.register x, .register y] => some (.operate .shiftLeft x y)
  | .sne, [.register x, .register y] => some (.skipUnlessEqual x y)
  | .ld, [.index, .target t] => some (.setIndex t)
  | .jp, [.register _, .target t] => some (.jumpFrom t)
  | .rnd, [.register x, .byte b] => some (.random x b)
  | .drw, [.register x, .register y, .height h] => some (.draw x y h)
  | .skp, [.register x] => some (.skipIfKey x)
  | .sknp, [.register x] => some (.skipUnlessKey x)
  | .ld, [.register x, .delay] => some (.readDelay x)
  | .ld, [.register x, .key] => some (.awaitKey x)
  | .ld, [.delay, .register x] => some (.setDelay x)
  | .ld, [.sound, .register x] => some (.setSound x)
  | .add, [.index, .register x] => some (.addIndex x)
  | .ld, [.font, .register x] => some (.glyph x)
  | .ld, [.decimal, .register x] => some (.digits x)
  | .ld, [.block, .register x] => some (.save x)
  | .ld, [.register x, .block] => some (.restore x)
  | _, _ => none

theorem ofParts?_parts (i : Instruction) : ofParts? (parts i).1 (parts i).2 = some i := by
  cases i with
  | operate op x y => cases op <;> rfl
  | _ => rfl

theorem parts_injective {i j : Instruction} (h : parts i = parts j) : i = j := by
  have hi := ofParts?_parts i
  rw [h, ofParts?_parts] at hi
  exact (Option.some.inj hi).symm

/-- The data directive is no instruction's mnemonic. -/
theorem parts_ne_dw (i : Instruction) : (parts i).1 ≠ .dw := by
  cases i with
  | operate op x y => cases op <;> nofun
  | _ => nofun

/-! ### The texts as lines -/

theorem registerName_toList (r : Reg) :
    (registerName r.val).toList = (Operand.register r).chars := by
  rw [registerName, String.toList_append, Text.hexNat_toList (by decide) r.isLt]
  rfl

theorem byteText_toList (b : UInt8) : (byteText b.toNat).toList = (Operand.byte b).chars := by
  rw [byteText, String.toList_append, Text.hexNat_toList (by decide) b.toNat_lt]
  rfl

theorem targetText_toList (t : Target) : (targetText t.val).toList = (Operand.target t).chars := by
  rw [targetText, String.toList_append, Text.hexNat_toList (by decide) t.isLt]
  rfl

theorem wordText_toList (w : Word) :
    ("DW 0x" ++ Text.hexNat 4 w.toNat).toList = line .dw [.word w] := by
  rw [String.toList_append, Text.hexNat_toList (by decide) w.toNat_lt, line_one]
  rfl

/-! ### The disassembler and the decoder -/

/-- The mnemonic and the operands of a word: of its instruction, else of the data directive. -/
def wordParts (w : Word) : Mnemonic × List Operand :=
  match decode? w with
  | some i => parts i
  | none => (.dw, [.word w])

/-- The fields that the disassembler cuts out of a number are those of the word. -/
theorem disassemble_word (w : Word) :
    disassemble w.toNat =
      fieldsText w.toNat (Word.family w).val (Word.x w).val (Word.y w).val (Word.n w).val
        (Word.nn w).toNat (Word.nnn w).val := by
  have hw := w.toNat_lt
  have ho : ((w.toNat : Int) % 65536).toNat = w.toNat := by omega
  have low (k j : Nat) : k &&& (2 ^ j - 1) = k % 2 ^ j := Nat.and_two_pow_sub_one_eq_mod k j
  have hx : w.toNat >>> 8 &&& 0xF = w.toNat / 256 % 16 := by
    rw [Nat.shiftRight_eq_div_pow]
    exact low _ 4
  have hy : w.toNat >>> 4 &&& 0xF = w.toNat / 16 % 16 := by
    rw [Nat.shiftRight_eq_div_pow]
    exact low _ 4
  rw [disassemble, ho, hx, hy, Nat.shiftRight_eq_div_pow, Word.nn_toNat]
  simp only [Word.family, Word.x, Word.y, Word.n, Word.nnn]
  rw [show w.toNat &&& 0xF = w.toNat % 16 from low _ 4,
    show w.toNat &&& 0xFF = w.toNat % 256 from low _ 8,
    show w.toNat &&& 0xFFF = w.toNat % 4096 from low _ 12]

theorem operationNames_lookup (d : Fin 16) :
    (operationNames.lookup d.val).map String.toList =
      (Operator.ofCode? d).map fun op => (sign op).chars := by
  revert d
  decide +kernel

/-- The table of the last family and the decoder know the same low bytes. -/
theorem deviceForms_lookup (x : Reg) (b : UInt8) :
    ((deviceForms.lookup b.toNat).map fun form =>
        (form.1 ++ registerName x.val ++ form.2).toList) =
      (Instruction.ofDeviceByte? x b.toNat).map fun i => line (parts i).1 (parts i).2 := by
  unfold Instruction.ofDeviceByte?
  split
  case h_10 h7 hA h15 h18 h1E h29 h33 h55 h65 =>
    have hn : deviceForms.lookup b.toNat = none := by
      simp [List.lookup_eq_none_iff, deviceForms]
      exact ⟨h7, hA, h15, h18, h1E, h29, h33, h55, h65⟩
    rw [hn]
    rfl
  all_goals
    rename_i hb
    simp [hb, deviceForms, List.lookup_cons, parts, line_two, Mnemonic.chars, Operand.chars,
      registerName_toList]

/-- What the disassembler makes of the fields of a word is the line of what the processor makes of
them. -/
def ReadAlike (w : Word) : Prop :=
  (fieldsText w.toNat (Word.family w).val (Word.x w).val (Word.y w).val (Word.n w).val
    (Word.nn w).toNat (Word.nnn w).val).toList = line (wordParts w).1 (wordParts w).2

variable {w : Word}

/- Outside the lowest family neither of the first two questions is answered with yes. -/
theorem toNat_ne_of_family (hw : (Word.family w).val ≠ 0) :
    w.toNat ≠ 0x00E0 ∧ w.toNat ≠ 0x00EE := by
  simp only [Word.family] at hw
  omega

theorem readAlike_lowest (hw : (Word.family w).val = 0x0) : ReadAlike w := by
  have hnnn : (Word.nnn w).val = w.toNat := by
    simp only [Word.family, Word.nnn] at hw ⊢
    omega
  by_cases hclear : w.toNat = 0x00E0
  · simp [ReadAlike, fieldsText, wordParts, decode?, hw, hnnn, hclear, parts]
    rfl
  · by_cases hret : w.toNat = 0x00EE
    · simp [ReadAlike, fieldsText, wordParts, decode?, hw, hnnn, hret, parts]
      rfl
    · simp only [ReadAlike, fieldsText, wordParts, decode?, hw, hnnn, hclear, hret]
      exact wordText_toList w

/-- The families of which every word is an instruction. -/
theorem readAlike_full
    (hw : (Word.family w).val ∈ [0x1, 0x2, 0x3, 0x4, 0x6, 0x7, 0xA, 0xB, 0xC, 0xD]) :
    ReadAlike w := by
  -- the only register that a text spells out and no field of the word holds
  have h0 : hexDigits 1 0 = ['0'] := rfl
  have hne := toNat_ne_of_family (w := w) (by rintro h; simp [h] at hw)
  simp only [List.mem_cons, List.not_mem_nil, or_false] at hw
  unfold ReadAlike
  rcases hw with hw | hw | hw | hw | hw | hw | hw | hw | hw | hw <;>
    simp [fieldsText, wordParts, decode?, hw, hne, parts, line_one, line_two, line_three,
      Mnemonic.chars, registerName_toList, byteText_toList, targetText_toList, Operand.chars, h0]

/-- The families that compare two registers: the lowest digit is zero. -/
theorem readAlike_compare (hw : (Word.family w).val = 0x5 ∨ (Word.family w).val = 0x9) :
    ReadAlike w := by
  have hne := toNat_ne_of_family (w := w) (by omega)
  unfold ReadAlike
  by_cases hn : (Word.n w).val = 0
  · rcases hw with hw | hw <;>
      simp [fieldsText, wordParts, decode?, hw, hne, hn, parts, line_two, Mnemonic.chars,
        registerName_toList]
  · rcases hw with hw | hw <;>
      simp only [fieldsText, wordParts, decode?, hw, hne, hn] <;>
      exact wordText_toList w

theorem readAlike_operate (hw : (Word.family w).val = 0x8) : ReadAlike w := by
  have hne := toNat_ne_of_family (w := w) (by omega)
  have hop := operationNames_lookup (Word.n w)
  unfold ReadAlike
  cases hcode : Operator.ofCode? (Word.n w) with
  | some op =>
    rw [hcode, Option.map_some] at hop
    obtain ⟨name, hname, hchars⟩ := Option.map_eq_some_iff.mp hop
    simp [fieldsText, wordParts, decode?, hw, hne, hcode, hname, hchars, parts, line_two,
      registerName_toList]
  | none =>
    rw [hcode, Option.map_none, Option.map_eq_none_iff] at hop
    simp only [fieldsText, wordParts, decode?, hw, hne, hcode, hop]
    exact wordText_toList w

theorem readAlike_key (hw : (Word.family w).val = 0xE) : ReadAlike w := by
  have hne := toNat_ne_of_family (w := w) (by omega)
  unfold ReadAlike
  by_cases hdown : (Word.nn w).toNat = 0x9E
  · simp [fieldsText, wordParts, decode?, Instruction.ofKeyByte?, hw, hne, hdown, parts, line_one,
      Mnemonic.chars, registerName_toList]
  · by_cases hup : (Word.nn w).toNat = 0xA1
    · simp [fieldsText, wordParts, decode?, Instruction.ofKeyByte?, hw, hne, hup, parts, line_one,
        Mnemonic.chars, registerName_toList]
    · simp only [fieldsText, wordParts, decode?, Instruction.ofKeyByte?, hw, hne, hdown, hup]
      exact wordText_toList w

theorem readAlike_device (hw : (Word.family w).val = 0xF) : ReadAlike w := by
  have hne := toNat_ne_of_family (w := w) (by omega)
  have hform := deviceForms_lookup (Word.x w) (Word.nn w)
  unfold ReadAlike
  cases hbyte : Instruction.ofDeviceByte? (Word.x w) (Word.nn w).toNat with
  | some i =>
    rw [hbyte, Option.map_some] at hform
    obtain ⟨form, hlookup, hchars⟩ := Option.map_eq_some_iff.mp hform
    simp [fieldsText, wordParts, decode?, hw, hne, hbyte, hlookup, ← hchars]
  | none =>
    rw [hbyte, Option.map_none, Option.map_eq_none_iff] at hform
    simp only [fieldsText, wordParts, decode?, hw, hne, hbyte, hform]
    exact wordText_toList w

/-- The disassembler and the processor read every word alike: the text is the line of the
instruction that the processor decodes, and a data directive where it decodes none. -/
theorem disassemble_line (w : Word) :
    (disassemble w.toNat).toList = line (wordParts w).1 (wordParts w).2 := by
  have hfamily := (Word.family w).isLt
  rw [disassemble_word]
  by_cases hlow : (Word.family w).val = 0x0
  · exact readAlike_lowest hlow
  by_cases hcompare : (Word.family w).val = 0x5 ∨ (Word.family w).val = 0x9
  · exact readAlike_compare hcompare
  by_cases hoperate : (Word.family w).val = 0x8
  · exact readAlike_operate hoperate
  by_cases hkey : (Word.family w).val = 0xE
  · exact readAlike_key hkey
  by_cases hdevice : (Word.family w).val = 0xF
  · exact readAlike_device hdevice
  refine readAlike_full ?_
  simp only [List.mem_cons, List.not_mem_nil, or_false]
  omega

/-- A text shows an instruction if it is a line of the instruction's mnemonic and operands. -/
def Shows (text : String) (i : Instruction) : Prop := text.toList = line (parts i).1 (parts i).2

theorem Shows.unique {text : String} {i j : Instruction} (hi : Shows text i) (hj : Shows text j) :
    i = j := by
  obtain ⟨hm, ho⟩ := line_injective (hi.symm.trans hj)
  exact parts_injective (Prod.ext hm ho)

/-- The data form of a word: all four of its digits. -/
def dataForm (w : Word) : String := "DW 0x" ++ String.ofList (hexDigits 4 w.toNat)

theorem dataForm_toList (w : Word) : (dataForm w).toList = line .dw [.word w] := by
  simp [dataForm, line_one, Mnemonic.chars, Operand.chars]

theorem Shows.ne_dataForm {text : String} {i : Instruction} (h : Shows text i) (w : Word) :
    text ≠ dataForm w := by
  intro hd
  rw [Shows, hd, dataForm_toList] at h
  exact parts_ne_dw i (line_injective h).1.symm

theorem disassemble_shows {w : Word} {i : Instruction} (h : decode? w = some i) :
    Shows (disassemble w.toNat) i := by
  have hl := disassemble_line w
  rw [wordParts, h] at hl
  exact hl

theorem disassemble_eq_dataForm_iff (w : Word) :
    disassemble w.toNat = dataForm w ↔ decode? w = none := by
  cases h : decode? w with
  | none =>
    have hl := disassemble_line w
    rw [wordParts, h, ← dataForm_toList] at hl
    simpa using String.toList_inj.mp hl
  | some i =>
    have hne := (disassemble_shows h).ne_dataForm w
    simp [hne]

end Assembly

namespace Machine

open Assembly (Shows dataForm)

theorem unknownOpcode_iff (m : Machine) :
    (∃ f, .fault f ∈ m.execute.2 ∧ f.kind = .unknownOpcode) ↔
      Instruction.decode? m.nextWord = none := by
  simp only [fault_mem_execute_iff]
  constructor
  · rintro ⟨f, ⟨kind, ha, rfl⟩, hk⟩
    have hk : kind = .unknownOpcode := hk
    subst hk
    rcases (attempt_error_iff _ _ _).mp ha with ⟨hd, -⟩ | ⟨-, -, hk⟩ | ⟨-, -, hk⟩
    · exact hd
    · cases hk
    · cases hk
  · intro hd
    exact ⟨_, ⟨.unknownOpcode, (attempt_error_iff _ _ _).mpr (.inl ⟨hd, rfl⟩), rfl⟩, rfl⟩

/-- How the execution of a word agrees with a text for the word. -/
structure AgreesWith (m : Machine) (w : Word) (text : String) : Prop where
  unknown : (∃ f, .fault f ∈ m.execute.2 ∧ f.kind = .unknownOpcode) ↔ text = dataForm w
  opcode : IsOpcode w ↔ text ≠ dataForm w
  shown : text ≠ dataForm w →
    ∃ i, Shows text i ∧ (∀ j, Shows text j → j = i) ∧ m.execute = m.carryOut i

/-- Whatever word comes next, it is executed as its disassembly reads. -/
theorem execute_agreesWith_disassembly (m : Machine) :
    m.AgreesWith m.nextWord (disassemble m.nextWord.toNat) where
  unknown := by
    rw [unknownOpcode_iff, Assembly.disassemble_eq_dataForm_iff]
  opcode := by
    rw [ne_eq, Assembly.disassemble_eq_dataForm_iff, Instruction.decode?_eq_none_iff,
      Decidable.not_not]
  shown := by
    intro hne
    rw [ne_eq, Assembly.disassemble_eq_dataForm_iff, ← ne_eq, Option.ne_none_iff_exists'] at hne
    obtain ⟨i, hi⟩ := hne
    have hs := Assembly.disassemble_shows hi
    exact ⟨i, hs, fun j hj => hj.unique hs, execute_eq_carryOut hi⟩

end Machine

end Chip8
