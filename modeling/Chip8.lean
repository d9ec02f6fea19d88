import Chip8.Arithmetic
import Chip8.Beeper.SquareWave
import Chip8.Beeper.ToneDevice
import Chip8.Cartridge
import Chip8.CommandLine.Arguments
import Chip8.CommandLine.Help
import Chip8.CommandLine.Program
import Chip8.CommandLine.Report
import Chip8.CommandLine.Transcript
import Chip8.Crash
import Chip8.Decimal.Double
import Chip8.Decimal.Fixed
import Chip8.Decimal.Quantity
import Chip8.Decimal.Shortest
import Chip8.Disk
import Chip8.Disk.Change
import Chip8.Display
import Chip8.Extent
import Chip8.Fault
import Chip8.Grid
import Chip8.Instruction.Assembly
import Chip8.Instruction.Basic
import Chip8.Journal
import Chip8.Keyboard
import Chip8.Keypad
import Chip8.Layout
import Chip8.Machine.Basic
import Chip8.Machine.Execute
import Chip8.Machine.Load
import Chip8.Machine.Operation
import Chip8.Machine.Patched
import Chip8.Machine.Report
import Chip8.Machine.Run
import Chip8.Main
import Chip8.Memory
import Chip8.Noise
import Chip8.Operand
import Chip8.Picture
import Chip8.Proofs.Accesses
import Chip8.Proofs.Assembler
import Chip8.Proofs.AssemblyText
import Chip8.Proofs.BlockTransfer
import Chip8.Proofs.BlockWrites
import Chip8.Proofs.Bookkeeping
import Chip8.Proofs.Bounds
import Chip8.Proofs.Calls
import Chip8.Proofs.Captions
import Chip8.Proofs.Carries
import Chip8.Proofs.Deeds
import Chip8.Proofs.Driving
import Chip8.Proofs.Effects
import Chip8.Proofs.FaultRecord
import Chip8.Proofs.FaultStep
import Chip8.Proofs.Footprints
import Chip8.Proofs.FrameSplits
import Chip8.Proofs.HostLoop
import Chip8.Proofs.InstructionSet
import Chip8.Proofs.KeyEvents
import Chip8.Proofs.KeyWait
import Chip8.Proofs.Listings
import Chip8.Proofs.Loading
import Chip8.Proofs.LongWaits
import Chip8.Proofs.Masks
import Chip8.Proofs.MixerProtocol
import Chip8.Proofs.NumberRuns
import Chip8.Proofs.Numbers
import Chip8.Proofs.Overlays
import Chip8.Proofs.Pausing
import Chip8.Proofs.ProgramTrace
import Chip8.Proofs.Redrawing
import Chip8.Proofs.Reloading
import Chip8.Proofs.Renderings
import Chip8.Proofs.Screen
import Chip8.Proofs.Skips
import Chip8.Proofs.Snapshots
import Chip8.Proofs.Sprites
import Chip8.Proofs.TimerAccount
import Chip8.Proofs.TimingModes
import Chip8.Proofs.Tones
import Chip8.Proofs.Trails
import Chip8.Proofs.Views
import Chip8.Session
import Chip8.Slot
import Chip8.Text.Basic
import Chip8.Text.Encoding
import Chip8.Text.Hex
import Chip8.Text.Numeral
import Chip8.Text.Printable
import Chip8.Text.Quoted
import Chip8.Timers
import Chip8.Value
import Chip8.Window
