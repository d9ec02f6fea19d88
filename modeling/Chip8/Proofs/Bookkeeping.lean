import Chip8.Proofs.Masks

/-!
# Bookkeeping

A machine keeps counts, flags and notes that no program can read: how many instructions, frames and
tones there were, the recorded faults, the last word and its place, whether a key is awaited or the
picture is new, and the sound timer. Here they are covered by a mask, and nothing shows through.
-/

namespace Chip8

/- The bytes that a source has still to give, the next one at zero. -/
def Noise.upcoming (n : Noise) : Nat → UInt8 := fun k => n.byte (k + n.drawn)

theorem Noise.upcoming_draw (n : Noise) (k : Nat) : n.draw.2.upcoming k = n.upcoming (k + 1) := by
  simp only [upcoming, draw]
  congr 1
  omega

namespace Machine

/-- Two machines are the same to the program that runs on them. -/
structure SameProgramSide (m n : Machine) : Prop where
  memory : m.memory = n.memory
  v : m.v = n.v
  index : m.index = n.index
  pc : m.pc = n.pc
  stack : m.stack = n.stack
  delay : m.timers.delay = n.timers.delay
  keypad : m.keypad = n.keypad
  pixels : m.display.frame = n.display.frame
  random : m.noise.upcoming = n.noise.upcoming
  halted : m.halted = n.halted
  coupled : m.coupled = n.coupled

/- A machine with its bookkeeping blotted out. -/
def programSide (m : Machine) : Machine :=
  { m with timers := ⟨m.timers.delay, 0⟩, display := ⟨m.display.frame, false⟩,
           noise := ⟨m.noise.upcoming, 0⟩, lastWord := 0, lastAddress := 0, cycles := 0,
           waiting := false, frames := 0, tones := 0, faults := [] }

theorem programSide_eq_iff (m n : Machine) :
    programSide m = programSide n ↔ SameProgramSide m n := by
  constructor
  · intro h
    exact ⟨congrArg (·.memory) h, congrArg (·.v) h, congrArg (·.index) h,
      congrArg (·.pc) h, congrArg (·.stack) h, congrArg (·.timers.delay) h,
      congrArg (·.keypad) h, congrArg (·.display.frame) h, congrArg (·.noise.byte) h,
      congrArg (·.halted) h, congrArg (·.coupled) h⟩
  · intro h
    simp only [programSide, h.memory, h.v, h.index, h.pc, h.stack, h.delay, h.keypad, h.pixels,
      h.random, h.halted, h.coupled]

/- A draw takes the first of the bytes to come and leaves the others. -/
theorem programSide_draw (m : Machine) (v : Vector UInt8 16) :
    programSide { programSide m with noise := (programSide m).noise.draw.2, v := v } =
      programSide { m with noise := m.noise.draw.2, v := v } := by
  have hrest : (programSide m).noise.draw.2.upcoming = m.noise.draw.2.upcoming := by
    funext k
    rw [Noise.upcoming_draw, Noise.upcoming_draw]
    rfl
  exact (programSide_eq_iff _ _).mpr ⟨rfl, rfl, rfl, rfl, rfl, rfl, rfl, rfl, hrest, rfl, rfl⟩

theorem programSide_mask : Mask programSide fun _ => True where
  memory _ := rfl
  v _ := rfl
  index _ := rfl
  pc _ := rfl
  stack _ := rfl
  keypad _ := rfl
  picture _ := rfl
  random m := by simp [programSide, Noise.draw, Noise.upcoming]
  write _ _ _ _ _ _ := rfl
  paint _ _ _ := rfl
  draw := programSide_draw
  wait _ _ _ _ := rfl
  loadDelay _ _ := rfl
  loadSound _ _ := rfl
  halted _ := rfl
  delay := .inr fun _ => rfl
  fetch _ := rfl
  count _ := rfl
  fault _ _ := rfl
  act m a ha := by
    cases a with
    | execute => exact absurd rfl ha
    | tick =>
      simp only [act]
      rw [tick_eq, tick_eq m]
      rfl
    | reset => rfl
    | place _ => rfl
    | countFrame => rfl
    | keys _ => rfl
    | consume => rfl
  timing := .inr fun _ => rfl

/-- Machines that are the same to a program stay so under the same operations, whatever their
bookkeeping, and a host is answered the same by both. -/
theorem bookkeeping_inert {m n : Machine} (h : SameProgramSide m n) (ops : List Op) :
    SameProgramSide (m.after ops) (n.after ops) ∧ m.answers ops = n.answers ops := by
  have hlegal : Legal (fun _ => True) (m.deeds ops) := fun _ _ _ _ => trivial
  obtain ⟨hafter, hanswers⟩ :=
    programSide_mask.after_eq ops ((programSide_eq_iff m n).mpr h) hlegal
  exact ⟨(programSide_eq_iff _ _).mp hafter, hanswers⟩

/- A machine on its first day, and the same after long use. -/
def fresh : Machine := powerOn ⟨fun _ => 7, 0⟩ true

def worn : Machine :=
  { fresh with timers := ⟨0, 9⟩, display := ⟨Frame.dark, true⟩, noise := ⟨fun _ => 7, 12⟩,
               lastWord := 0xF30A, lastAddress := 0x333, cycles := 400, waiting := true,
               frames := 6, tones := 2, faults := [⟨.unknownOpcode, 0x300, 0, 5⟩] }

theorem worn_inert :
    SameProgramSide fresh worn ∧ fresh.waiting ≠ worn.waiting ∧ fresh.faults ≠ worn.faults ∧
      SameProgramSide
        (fresh.after [.load (.bytes [0xC0, 0xFF, 0xF1, 0x0A]), .frame (.int 3), .tick, .step])
        (worn.after [.load (.bytes [0xC0, 0xFF, 0xF1, 0x0A]), .frame (.int 3), .tick, .step]) ∧
      fresh.answers [.load (.bytes [0xC0, 0xFF, 0xF1, 0x0A]), .frame (.int 3), .tick, .step] =
        worn.answers [.load (.bytes [0xC0, 0xFF, 0xF1, 0x0A]), .frame (.int 3), .tick, .step] := by
  have h : SameProgramSide fresh worn :=
    ⟨rfl, rfl, rfl, rfl, rfl, rfl, rfl, rfl, rfl, rfl, rfl⟩
  exact ⟨h, nofun, nofun, bookkeeping_inert h _⟩

end Machine

end Chip8
