import Chip8.Cartridge

/-!
# Reports

The two reports that are printed instead of opening a window: what is known about a cartridge, and
the state of a machine after a number of instructions.
-/

namespace Chip8.CommandLine

def rule (n : Nat) : String := String.ofList (List.replicate n '=')

/-- Words with a capital first letter, underscores read as blanks. -/
def capitalise (start : Bool) : List Char → List Char
  | [] => []
  | c :: rest =>
    if c = '_' then ' ' :: capitalise true rest
    else (if start then c.toUpper else c) :: capitalise false rest

def label (name : String) : String := String.ofList (capitalise true name.toList)

def padRight (width : Nat) (s : String) : String :=
  s ++ String.ofList (List.replicate (width - s.length) ' ')

def factLine (fact : String × Text) : Text := "  " ++ padRight 20 (label fact.1) ++ ": " ++ fact.2

def infoLines (facts : List (String × Text)) (lines : List String) : List Text :=
  [Text.ofString "chip8emu ROM Information", Text.ofString (rule 40)]
    ++ facts.map factLine
    ++ [Text.ofString (rule 40)] ++ lines.map fun line => Text.ofString ("  " ++ line)

def registerLine (m : Machine) (registers : List Reg) : String :=
  "  " ++ " ".intercalate (registers.map m.registerText)

def stackText (m : Machine) : String :=
  "[" ++ ", ".intercalate (m.stack.reverse.map fun a => "'$" ++ Text.hex 3 a ++ "'") ++ "]"

def debugLines (m : Machine) (executed : Nat) (steps : Int) : List String :=
  [rule 60, "chip8emu Debug Diagnostics", rule 60,
   "Machine: " ++ m.describe,
   "Executed: " ++ toString executed ++ "/" ++ toString steps ++ " instructions",
   "PC=$" ++ Text.hex 3 m.pc ++ "  I=$" ++ Text.hex 3 m.index ++ "  DT="
     ++ toString m.timers.delay.toNat ++ "  ST=" ++ toString m.timers.sound.toNat,
   registerLine m ((List.finRange 16).take 8),
   registerLine m ((List.finRange 16).drop 8),
   "Stack: " ++ stackText m,
   "Waiting for key: " ++ Value.boolText m.waiting,
   "Beeps: " ++ toString m.tones]
    ++ (m.faults.map fun f => "Fault: " ++ f.message)
    ++ ["", m.display.frame.picture, rule 60]

end Chip8.CommandLine
