import Chip8.CommandLine.Arguments

/-!
# Usage and help

The texts that explain the command line.
-/

namespace Chip8.CommandLine

def usage : Text := Text.unlines
  ["usage: chip8emu [-h] [--scale SCALE] [--cpu-hz HZ] [--legacy-timing]",
   "                [--no-audio] [--beep WAV] [--info] [--debug STEPS] [--verbose]",
   "                rom"]

def help : Text := usage ++ Text.unlines
  ["",
   "CHIP-8 interpreter. Load a ROM file and play it in a pygame window.",
   "",
   "positional arguments:",
   "  rom                   Path to the ROM file (raw CHIP-8 bytes, loaded at",
   "                        0x200)",
   "",
   "options:",
   "  -h, --help            show this help message and exit",
   "  --scale SCALE, -s SCALE",
   "                        Display scale factor (1-20). Default: 10.",
   "  --cpu-hz HZ           Instructions per second. Default: 500.",
   "  --legacy-timing       Tick the timers on every instruction instead of at 60",
   "                        Hz.",
   "  --no-audio            Disable the beep.",
   "  --beep WAV            WAV file to play as the beep instead of the built-in",
   "                        tone.",
   "  --info                Print ROM metadata and a disassembly, then exit.",
   "  --debug STEPS         Run STEPS instructions without a window, print the",
   "                        machine state and exit.",
   "  --verbose, -v         Increase log verbosity (-v for INFO, -vv for DEBUG",
   "                        instruction trace)."]

def usageText (e : UsageError) : Text := usage ++ "chip8emu: error: " ++ e.message ++ "\n"

end Chip8.CommandLine
