import Chip8.Beeper.ToneDevice
import Chip8.Operand

/-!
# Crashes

A failure that nothing in the program deals with. It has a kind and a message, and is reported by
naming its kind in full.
-/

namespace Chip8

inductive Crash where
  | reported (text : Text)
  | clock
  | beeper (e : ToneDevice.SetupError)
  | operand (e : OperandError)
  | badName (e : DiskError)
  | disk (e : DiskError)
  deriving DecidableEq, Repr

namespace IntegerError

def kind : IntegerError → String
  | noWhole .infinity => "OverflowError"
  | noWhole .notANumber => "ValueError"
  | noNumeral _ => "ValueError"
  | tooManyDigits _ => "ValueError"
  | noNumber _ => "TypeError"

end IntegerError

namespace ArithmeticError

def kind : ArithmeticError → String
  | operand _ => "TypeError"
  | noDouble => "OverflowError"
  | hugeCount => "OverflowError"
  | tooLong => "OverflowError"
  | noMemory => "MemoryError"

end ArithmeticError

namespace SquareWave.WaveError

def kind : WaveError → String
  | noLength e => e.kind
  | arithmetic e => e.kind
  | tooLong => "ValueError"
  | extent .tooBig => "ValueError"
  | extent (.noMemory _ _) => "MemoryError"
  | tooLarge => "OverflowError"
  | noQuotient => "TypeError"

end SquareWave.WaveError

namespace DiskFailure

def kind : DiskFailure → String
  | missing => "FileNotFoundError"
  | isDirectory => "IsADirectoryError"
  | notDirectory => "NotADirectoryError"
  | taken => "FileExistsError"
  | tooLong => "OSError"
  | denied => "PermissionError"
  | other _ _ _ => "OSError"
  | zeroByte => "ValueError"
  | noBytes _ => "UnicodeEncodeError"

end DiskFailure

namespace ToneDevice.SetupError

def kind : SetupError → String
  | file e => e.failure.kind
  | unnamed => "TypeError"
  | wave e => e.kind
  | format _ => "ValueError"
  | operand _ => "TypeError"
  | record e => e.kind

end ToneDevice.SetupError

namespace Crash

def kind : Crash → String
  | reported _ => "RuntimeError"
  | clock => "OverflowError"
  | beeper e => e.kind
  | operand _ => "TypeError"
  | badName e => e.failure.kind
  | disk e => e.failure.kind

def message : Crash → Text
  | reported text => text
  | clock => "int too large to convert to float"
  | beeper e => e.message
  | operand e => e.message
  | badName e => e.message
  | disk e => e.message

/-- The kind of a crash in full: a lack of memory is named by where it was noticed. -/
def fullKind : Crash → String
  | beeper (.wave (.extent (.noMemory _ _))) => "numpy._core._exceptions._ArrayMemoryError"
  | c => c.kind

def report (c : Crash) : Text :=
  if c.message.codes = [] then c.fullKind else c.fullKind ++ ": " ++ c.message

end Crash

end Chip8
