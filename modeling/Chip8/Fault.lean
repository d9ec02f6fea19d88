import Chip8.Text.Hex
import Chip8.Value

/-!
# Faults

An instruction that cannot be carried out is a fault. A word that is no instruction is skipped; the
two stack faults are fatal and halt the machine.
-/

namespace Chip8

inductive FaultKind where
  | unknownOpcode
  | stackUnderflow
  | stackOverflow
  deriving DecidableEq, Repr

namespace FaultKind

def fatal : FaultKind → Bool
  | unknownOpcode => false
  | stackUnderflow => true
  | stackOverflow => true

def name : FaultKind → String
  | unknownOpcode => "UNKNOWN_OPCODE"
  | stackUnderflow => "STACK_UNDERFLOW"
  | stackOverflow => "STACK_OVERFLOW"

def number : FaultKind → Int
  | unknownOpcode => 1
  | stackUnderflow => 2
  | stackOverflow => 3

def ofNumber? (n : Int) : Option FaultKind :=
  if n = 1 then some unknownOpcode
  else if n = 2 then some stackUnderflow
  else if n = 3 then some stackOverflow
  else none

structure NoSuchKind where
  value : Value

def NoSuchKind.message (e : NoSuchKind) : String := e.value.literal ++ " is not a valid FaultKind"

/-- The fault that a value numbers, whatever kind of number the value is. -/
def ofValue? (v : Value) : Except NoSuchKind FaultKind :=
  match v.wholeNumber?.bind ofNumber? with
  | some k => .ok k
  | none => .error ⟨v⟩

end FaultKind

structure Fault where
  kind : FaultKind
  address : Int
  opcode : Int
  cycle : Int
  deriving DecidableEq, Repr

namespace Fault

def message (f : Fault) : String :=
  f.kind.name ++ " at $" ++ Text.hex 3 f.address ++ " (opcode " ++ Text.hex 4 f.opcode
    ++ ", cycle " ++ toString f.cycle ++ ")"

/-- Why a value has no hexadecimal digits; kinds are given by their names. -/
inductive DigitsError where
  | otherForm (kind : String)
  | noForm (kind : String)
  deriving DecidableEq, Repr

def DigitsError.message : DigitsError → String
  | otherForm kind => "Unknown format code 'X' for object of type '" ++ kind ++ "'"
  | noForm kind => "unsupported format string passed to " ++ kind ++ ".__format__"

def digitsOf (width : Nat) (v : Value) : Except DigitsError String :=
  match v.toInt?, v with
  | some n, _ => .ok (Text.hex width n)
  | none, .float _ => .error (.otherForm v.kindName)
  | none, .text _ => .error (.otherForm v.kindName)
  | none, _ => .error (.noForm v.kindName)

/-- A fault in words whose parts are values of any kind; the cycle count is shown as it is. -/
def wording (kind : FaultKind) (address opcode cycle : Value) : Except DigitsError Text :=
  match digitsOf 3 address, digitsOf 4 opcode with
  | .error e, _ => .error e
  | .ok _, .error e => .error e
  | .ok a, .ok o =>
    .ok (kind.name ++ " at $" ++ a ++ " (opcode " ++ o ++ ", cycle " ++ cycle.shown ++ ")")

end Fault

end Chip8
