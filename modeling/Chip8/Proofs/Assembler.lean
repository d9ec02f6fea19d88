import Chip8.Proofs.AssemblyText

/-!
# Assembling

A line of assembly is read back by splitting it at its blanks, dropping the commas, and looking up
the instruction with that mnemonic and these operands. The assembler takes a text that is the text
of a word, and nothing else. So no two words share a text, and a program is known from the texts of
its lines and its length.
-/

namespace Chip8

namespace Word

theorem ofInt_eq_iff (a b : Int) : ofInt a = ofInt b ↔ a % 65536 = b % 65536 := by
  have ha := ofInt_toNat a
  have hb := ofInt_toNat b
  rw [← UInt16.toNat_inj]
  omega

theorem ofBytes_injective {a b c d : UInt8} (h : ofBytes a b = ofBytes c d) : a = c ∧ b = d := by
  have hb := b.toNat_lt
  have hd := d.toNat_lt
  have hnat := congrArg UInt16.toNat h
  rw [ofBytes_toNat, ofBytes_toNat] at hnat
  constructor
  · apply UInt8.toNat_inj.mp
    omega
  · apply UInt8.toNat_inj.mp
    omega

end Word

namespace Assembly

open Instruction (decode?)

/-! ### Reading a line -/

def readOperand (o : List Char) : Operand := Operand.read (o.filter (· ≠ ','))

def readLine (cs : List Char) : Option (Mnemonic × List Operand) :=
  match cs.splitOn ' ' with
  | [] => none
  | head :: rest =>
    (Mnemonic.all.find? fun k => k.chars = head).map fun m => (m, rest.map readOperand)

theorem readOperand_punctuate (os : List Operand) :
    (punctuate (os.map Operand.chars)).map readOperand = os := by
  have hsplit : readOperand = Operand.read ∘ List.filter (· ≠ ',') := rfl
  rw [hsplit, ← List.map_map, filter_punctuate (comma_not_mem_chars os), List.map_map]
  have hid : Operand.read ∘ Operand.chars = id := funext Operand.read_chars
  rw [hid, List.map_id]

theorem readLine_line (m : Mnemonic) (os : List Operand) : readLine (line m os) = some (m, os) := by
  unfold readLine
  rw [splitOn_line]
  simp only [Mnemonic.find?_chars, Option.map_some, readOperand_punctuate]

/-! ### Words as lines -/

def word? : Mnemonic → List Operand → Option Word
  | .dw, [.word w] => some w
  | m, os => (ofParts? m os).map Instruction.encode

/-- Only the low sixteen bits of a number have a text. -/
theorem disassemble_eq_text (n : Int) : disassemble n = Word.text (Word.ofInt n) := by
  have hn : ((((n % 65536).toNat : Nat) : Int) % 65536).toNat = (n % 65536).toNat := by omega
  simp only [Word.text, disassemble, Word.ofInt_toNat, hn]

theorem word?_parts (i : Instruction) : word? (parts i).1 (parts i).2 = some i.encode := by
  have hdw := parts_ne_dw i
  have hi := ofParts?_parts i
  unfold word?
  split
  · rename_i hm _
    exact absurd hm hdw
  · rw [hi]
    rfl

theorem word?_wordParts (w : Word) : word? (wordParts w).1 (wordParts w).2 = some w := by
  unfold wordParts
  cases hw : decode? w with
  | some i =>
    have hi := word?_parts i
    rw [Instruction.encode_of_decode? hw] at hi
    exact hi
  | none => rfl

/-! ### The assembler -/

/- A line that can be read as a word but is not its text, such as `DW 0x00E0`, is refused. -/
def assemble? (text : String) : Option Word :=
  ((readLine text.toList).bind fun l => word? l.1 l.2).filter fun w => Word.text w = text

theorem assemble?_text (w : Word) : assemble? (Word.text w) = some w := by
  have hline : (Word.text w).toList = line (wordParts w).1 (wordParts w).2 := disassemble_line w
  unfold assemble?
  rw [hline, readLine_line]
  simp only [Option.bind_some, word?_wordParts, Option.filter_some, decide_true, if_true]

theorem assemble?_eq_some_iff (text : String) (w : Word) :
    assemble? text = some w ↔ Word.text w = text := by
  constructor
  · intro h
    have hw := (Option.filter_eq_some_iff.mp h).2
    simpa using hw
  · rintro rfl
    exact assemble?_text w

theorem text_injective {w u : Word} (h : Word.text w = Word.text u) : w = u := by
  have hw := assemble?_text w
  rw [h, assemble?_text] at hw
  exact (Option.some.inj hw).symm

/-! ### Listings -/

theorem listing_text_congr (data : List UInt8) (origin other : Int) :
    (listing data origin).map Line.text = (listing data other).map Line.text := by
  fun_induction listing data origin generalizing other with
  | case1 => rfl
  | case2 high => rfl
  | case3 high low rest origin ih =>
    rw [listing, List.map_cons, List.map_cons, ih (other + 2)]
    rfl

/- A zero behind an odd last byte is listed like one that is there, so the lengths must agree. -/
theorem listing_text_injective {data other : List UInt8} {origin start : Int}
    (hlen : data.length = other.length)
    (h : (listing data origin).map Line.text = (listing other start).map Line.text) :
    data = other := by
  fun_induction listing data origin generalizing other start with
  | case1 => exact (List.eq_nil_of_length_eq_zero hlen.symm).symm
  | case2 high origin =>
    obtain ⟨b, rfl⟩ := List.length_eq_one_iff.mp hlen.symm
    have hword := text_injective (List.cons.inj h).1
    rw [(Word.ofBytes_injective hword).1]
  | case3 high low rest origin ih =>
    obtain ⟨b, others, rfl⟩ := List.exists_cons_of_length_eq_add_one hlen.symm
    have htail : others.length = rest.length + 1 := (Nat.succ.inj hlen).symm
    obtain ⟨c, others, rfl⟩ := List.exists_cons_of_length_eq_add_one htail
    rw [listing, List.map_cons, List.map_cons, List.cons.injEq] at h
    obtain ⟨rfl, rfl⟩ := Word.ofBytes_injective (text_injective h.1)
    have hrest : rest.length = others.length := by simpa using hlen
    rw [ih hrest h.2]

/-- Two numbers have the same text exactly if they agree in their low sixteen bits. The assembler
gives back the word of every text, and takes no other text. Two programs of one length with the same
texts are the same program. -/
theorem disassembly_lossless :
    (∀ a b : Int, disassemble a = disassemble b ↔ a % 65536 = b % 65536) ∧
    (∀ (text : String) (w : Word), assemble? text = some w ↔ disassemble w.toNat = text) ∧
    ∀ (data other : List UInt8) (origin start : Int),
      (data.length = other.length ∧
        (listing data origin).map Line.text = (listing other start).map Line.text) ↔
      data = other := by
  refine ⟨?_, ?_, ?_⟩
  · intro a b
    rw [← Word.ofInt_eq_iff, disassemble_eq_text, disassemble_eq_text]
    constructor
    · exact text_injective
    · exact congrArg Word.text
  · exact assemble?_eq_some_iff
  · intro data other origin start
    constructor
    · rintro ⟨hlen, htext⟩
      exact listing_text_injective hlen htext
    · rintro rfl
      exact ⟨rfl, listing_text_congr data origin start⟩

end Assembly

end Chip8
