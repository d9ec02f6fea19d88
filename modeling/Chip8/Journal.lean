import Chip8.Text.Basic

/-!
# Log records

Every part of the program reports what it does as records with a level, a source and a text. Whoever
shows them keeps those at or above a level.
-/

namespace Chip8

inductive Level where
  | debug | info | warning | error
  deriving DecidableEq, Repr

namespace Level

def rank : Level → Nat
  | debug => 0
  | info => 1
  | warning => 2
  | error => 3

def name : Level → String
  | debug => "DEBUG"
  | info => "INFO"
  | warning => "WARNING"
  | error => "ERROR"

end Level

inductive Source where
  | processor | machine | cartridge | builder | renderer | beeper | window | program
  deriving DecidableEq, Repr

namespace Source

def name : Source → String
  | processor => "chip8emu.core.cpu"
  | machine => "chip8emu.core.machine"
  | cartridge => "chip8emu.shell.services.rom_bytes_service"
  | builder => "chip8emu.shell.services.machine_factory"
  | renderer => "chip8emu.shell.frame_renderer"
  | beeper => "chip8emu.platform.audio"
  | window => "chip8emu.platform.window"
  | program => "chip8emu.main"

end Source

structure Record where
  level : Level
  source : Source
  text : Text
  deriving DecidableEq, Repr

namespace Record

def shownAt (threshold : Level) (r : Record) : Bool := threshold.rank ≤ r.level.rank

end Record

end Chip8
