import Chip8.Machine.Execute

/-!
# Loading a program

A program is a sequence of at most 3584 bytes, given as bytes or as values that are integers from 0
to 255. It is checked in full before the first byte is written: what is refused leaves the machine
as it was. An element that is no byte is reported before an excessive length.
-/

namespace Chip8

inductive ProgramData where
  | bytes (data : List UInt8)
  | value (v : Value)
  /-- Values handed out one after the other, such as the keys of a mapping. -/
  | items (values : List Value)

inductive LoadError where
  | notSequence (v : Value)
  | notIterable (v : Value)
  | notInteger (v : Value)
  | notByte
  | tooLong (size : Nat)

namespace LoadError

def message : LoadError → String
  | notSequence v => "program data must be a byte sequence, got " ++ v.kindName
  | notIterable v =>
    "program data is not a byte sequence: cannot convert '" ++ v.kindName ++ "' object to bytes"
  | notInteger v =>
    "program data is not a byte sequence: '" ++ v.kindName
      ++ "' object cannot be interpreted as an integer"
  | notByte => "program data is not a byte sequence: bytes must be in range(0, 256)"
  | tooLong size =>
    "program is " ++ toString size ++ " bytes; at most " ++ toString Layout.maxProgramSize
      ++ " fit between $" ++ Text.hexNat 3 Layout.programStart ++ " and the end of memory"

end LoadError

namespace ProgramData

def element (v : Value) : Except LoadError UInt8 :=
  match v.toInt? with
  | some n => if 0 ≤ n ∧ n < 256 then .ok (byteOf n) else .error .notByte
  | none => .error (.notInteger v)

def elements : List Value → Except LoadError (List UInt8)
  | [] => .ok []
  | v :: rest =>
    match element v with
    | .error e => .error e
    | .ok b =>
      match elements rest with
      | .error e => .error e
      | .ok bs => .ok (b :: bs)

/-- The bytes that are offered, of whatever number; an object offers the names of its fields. -/
def toBytes : ProgramData → Except LoadError (List UInt8)
  | bytes data => .ok data
  | items values => elements values
  | value (.list values) => elements values
  | value (.object fields) => elements (fields.map fun f => .text f.1)
  | value (.int n) => .error (.notSequence (.int n))
  | value (.bool b) => .error (.notSequence (.bool b))
  | value (.text s) => .error (.notSequence (.text s))
  | value .null => .error (.notIterable .null)
  | value (.float x) => .error (.notIterable (.float x))

def program (d : ProgramData) : Except LoadError (List UInt8) :=
  match d.toBytes with
  | .error e => .error e
  | .ok bs => if Layout.maxProgramSize < bs.length then .error (.tooLong bs.length) else .ok bs

end ProgramData

namespace Machine

def place (m : Machine) (program : List UInt8) : Machine :=
  { m with memory := m.memory.write Layout.programStart program }

theorem nextWord_place (noise : Noise) (coupled : Bool) (high low : UInt8) :
    ((powerOn noise coupled).place [high, low]).nextWord = Word.ofBytes high low := by
  have hsize : [high, low].length ≤ 4096 := by simp
  have hhigh := (powerOn noise coupled).memory.get_write_inside 0x200 hsize (j := 0) rfl
  have hlow := (powerOn noise coupled).memory.get_write_inside 0x200 hsize (j := 1) rfl
  exact congr (congrArg Word.ofBytes hhigh) hlow

def load (m : Machine) (d : ProgramData) : Except LoadError (Machine × List Signal) :=
  match d.program with
  | .error e => .error e
  | .ok program => .ok (m.place program, [.loaded program.length])

end Machine

end Chip8
