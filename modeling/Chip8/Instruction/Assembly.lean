import Chip8.Operand
import Chip8.Text.Hex
import Chip8.Instruction.Basic

/-!
# Assembly text and listings

Every word has a text: a mnemonic with operands, or a data directive. It is found by questions and
tables of its own, apart from the decoder of the processor. A listing pairs the words of a program
with their addresses; a byte left over at the end is the high half of a last word. The trace of an
execution and the listing of a program share `Line.render`.
-/

namespace Chip8

/-! ### The text of a word -/

def registerName (x : Nat) : String := "V" ++ Text.hexNat 1 x

def byteText (nn : Nat) : String := "0x" ++ Text.hexNat 2 nn

def targetText (nnn : Nat) : String := "0x" ++ Text.hexNat 3 nnn

def operationNames : List (Nat × String) :=
  [(0x0, "LD"), (0x1, "OR"), (0x2, "AND"), (0x3, "XOR"), (0x4, "ADD"), (0x5, "SUB"), (0x6, "SHR"),
    (0x7, "SUBN"), (0xE, "SHL")]

/-- The forms of the last family, by the low byte: what stands before and after the register. -/
def deviceForms : List (Nat × String × String) :=
  [(0x07, "LD ", ", DT"), (0x0A, "LD ", ", K"), (0x15, "LD DT, ", ""), (0x18, "LD ST, ", ""),
    (0x1E, "ADD I, ", ""), (0x29, "LD F, ", ""), (0x33, "LD B, ", ""), (0x55, "LD [I], ", ""),
    (0x65, "LD ", ", [I]")]

/-- The text for a number of sixteen bits and its fields. The questions are asked in this order. -/
def fieldsText (opcode family x y n nn nnn : Nat) : String :=
  if opcode = 0x00E0 then "CLS"
  else if opcode = 0x00EE then "RET"
  else if family = 0x1 then "JP " ++ targetText nnn
  else if family = 0x2 then "CALL " ++ targetText nnn
  else if family = 0x3 then "SE " ++ registerName x ++ ", " ++ byteText nn
  else if family = 0x4 then "SNE " ++ registerName x ++ ", " ++ byteText nn
  else if family = 0x5 ∧ n = 0 then "SE " ++ registerName x ++ ", " ++ registerName y
  else if family = 0x6 then "LD " ++ registerName x ++ ", " ++ byteText nn
  else if family = 0x7 then "ADD " ++ registerName x ++ ", " ++ byteText nn
  else if family = 0x8 ∧ (operationNames.lookup n).isSome then
    (operationNames.lookup n).getD "" ++ " " ++ registerName x ++ ", " ++ registerName y
  else if family = 0x9 ∧ n = 0 then "SNE " ++ registerName x ++ ", " ++ registerName y
  else if family = 0xA then "LD I, " ++ targetText nnn
  else if family = 0xB then "JP V0, " ++ targetText nnn
  else if family = 0xC then "RND " ++ registerName x ++ ", " ++ byteText nn
  else if family = 0xD then
    "DRW " ++ registerName x ++ ", " ++ registerName y ++ ", " ++ toString n
  else if family = 0xE ∧ nn = 0x9E then "SKP " ++ registerName x
  else if family = 0xE ∧ nn = 0xA1 then "SKNP " ++ registerName x
  else if family = 0xF ∧ (deviceForms.lookup nn).isSome then
    let form := (deviceForms.lookup nn).getD ("", "")
    form.1 ++ registerName x ++ form.2
  else "DW 0x" ++ Text.hexNat 4 opcode

def disassemble (n : Int) : String :=
  let opcode := (n % 65536).toNat
  fieldsText opcode (opcode >>> 12) (opcode >>> 8 &&& 0xF) (opcode >>> 4 &&& 0xF) (opcode &&& 0xF)
    (opcode &&& 0xFF) (opcode &&& 0xFFF)

def Word.text (w : Word) : String := disassemble w.toNat

/-- The texts of values' low sixteen bits; the first value without bits is refused. -/
def disassembleValues : List Value → Except OperandError (List String)
  | [] => .ok []
  | v :: rest =>
    match v.bits "&=" with
    | .error e => .error e
    | .ok n => (disassembleValues rest).map (disassemble n :: ·)

structure Line where
  address : Int
  word : Word
  deriving DecidableEq, Repr

namespace Line

def text (l : Line) : String := Word.text l.word

def render (l : Line) : String :=
  "$" ++ Text.hex 3 l.address ++ "  " ++ Text.hexNat 4 l.word.toNat ++ "  " ++ l.text

end Line

/-- The words of a program that begins at `origin`; an odd last byte is followed by a zero. -/
def listing : List UInt8 → Int → List Line
  | [], _ => []
  | [high], origin => [⟨origin, Word.ofBytes high 0⟩]
  | high :: low :: rest, origin => ⟨origin, Word.ofBytes high low⟩ :: listing rest (origin + 2)

def listingFrom (data : List UInt8) (origin : Value) : Except OperandError (List (Value × Word)) :=
  (listing data 0).mapM fun l => (origin.plus l.address).map fun a => (a, l.word)

theorem listing_length (data : List UInt8) (origin : Int) :
    (listing data origin).length = (data.length + 1) / 2 := by
  fun_induction listing data origin with
  | case1 => rfl
  | case2 => simp
  | case3 origin high low rest ih =>
    simp only [List.length_cons, ih]
    omega

end Chip8
