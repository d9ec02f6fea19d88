import Chip8.CommandLine.Program

/-!
# The command line

Reads the files that the arguments name, draws random bytes, runs the program and prints what it
wrote. There is no display and no sound here: a session in a window closes at its first tick, and
the time stamps of log records count from the start of the clock.
-/

open Chip8

def mount (disk : Disk) (path : Text) : IO Disk := do
  match ← (IO.FS.readBinFile path.display).toBaseIO with
  | .ok data => return (disk.write path data.toList).1
  | .error _ => return disk

/-- How many random bytes are drawn before they repeat. -/
def noiseLength : Nat := 65536

def drawNoise : IO (Array UInt8) := do
  let mut bytes := #[]
  for _ in [0:noiseLength] do
    bytes := bytes.push (UInt8.ofNat (← IO.rand 0 255))
  return bytes

def main (arguments : List String) : IO UInt32 := do
  let arguments := arguments.map Text.ofString
  let homes : Homes := { own := Text.ofString ((← IO.getEnv "HOME").getD "~") }
  let disk ← (CommandLine.paths homes arguments).foldlM mount Disk.empty
  let noise := Noise.cycle (← drawNoise)
  match CommandLine.run { disk := disk, homes := homes, noise := noise } arguments with
  | .error crash =>
    IO.eprintln crash.report.display
    return 1
  | .ok outcome =>
    let stamp := CommandLine.timeOfDay ((← IO.monoMsNow) / 1000)
    IO.print outcome.out.display
    IO.eprint (outcome.err stamp).display
    return UInt32.ofNat outcome.exit
