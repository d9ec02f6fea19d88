import Chip8.Journal
import Chip8.Machine.Run

/-!
# What a machine says about itself

Short descriptions of the machine and its processor, and the log records of its signals.
-/

namespace Chip8

namespace Machine

def describe (m : Machine) : String :=
  "Chip8Machine(pc=$" ++ Text.hex 3 m.pc ++ ", i=$" ++ Text.hex 3 m.index ++ ", cycles="
    ++ toString m.cycles ++ ", halted=" ++ Value.boolText m.halted ++ ")"

def registerText (m : Machine) (r : Reg) : String :=
  registerName r.val ++ "=" ++ Text.hexNat 2 (m.reg r).toNat

def describeProcessor (m : Machine) : String :=
  "Chip8CPU(PC=$" ++ Text.hex 3 m.pc ++ " I=$" ++ Text.hex 3 m.index ++ " SP="
    ++ toString m.stack.length ++ " " ++ " ".intercalate ((List.finRange 16).map m.registerText)
    ++ ")"

end Machine

namespace Display

def describe (d : Display) : String :=
  "FrameBuffer(width=64, height=32, lit=" ++ toString d.frame.litCount ++ ", dirty="
    ++ Value.boolText d.dirty ++ ")"

end Display

namespace Signal

/-- The log record of a signal; the end of a sound is not logged. -/
def record? : Signal → Option Record
  | fetched line => some ⟨.debug, .processor, line.render⟩
  | fault f =>
    if f.kind.fatal then
      some ⟨.error, .machine,
        "Interpreter halted: " ++ f.message ++ " [" ++ disassemble f.opcode ++ "]"⟩
    else some ⟨.warning, .machine, "Unknown opcode: " ++ f.message⟩
  | tone => none
  | loaded size =>
    some ⟨.info, .machine,
      "Loaded " ++ toString size ++ "-byte program at $" ++ Text.hexNat 3 Layout.programStart⟩

def records (signals : List Signal) : List Record := signals.filterMap record?

end Signal

end Chip8
