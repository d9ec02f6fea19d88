import Chip8.CommandLine.Program
import Chip8.Proofs.FaultStep
import Chip8.Proofs.Footprints
import Chip8.Proofs.Masks

/-!
# Frames cut and joined

Where every instruction ticks the timers, a frame is nothing but its instructions and a count. Two
frames do what one frame of both lengths does, and a run without a window does the same again. The
count of frames is the only difference, and no instruction looks at it.
-/

namespace Chip8.Machine

open CommandLine (debugRun debugLines)

/-! ### The count of frames -/

/-- One machine is the other with another count of frames. -/
def SameButFrames (m n : Machine) : Prop := n = { m with frames := n.frames }

def unframed (m : Machine) : Machine := { m with frames := 0 }

theorem unframed_eq_iff (m n : Machine) : unframed m = unframed n ↔ SameButFrames m n := by
  constructor
  · intro h
    have hn : n = { unframed n with frames := n.frames } := rfl
    rw [← h] at hn
    exact hn
  · intro h
    rw [h]
    rfl

theorem SameButFrames.halted {m n : Machine} (h : SameButFrames m n) : n.halted = m.halted := by
  rw [h]

theorem unframed_mask : Mask unframed fun _ => True where
  memory _ := rfl
  v _ := rfl
  index _ := rfl
  pc _ := rfl
  stack _ := rfl
  keypad _ := rfl
  picture _ := rfl
  random _ := rfl
  write _ _ _ _ _ _ := rfl
  paint _ _ _ := rfl
  draw _ _ := rfl
  wait _ _ _ _ := rfl
  loadDelay _ _ := rfl
  loadSound _ _ := rfl
  halted _ := rfl
  delay := .inr fun _ => rfl
  fetch _ := rfl
  count _ := rfl
  fault _ _ := rfl
  act m a ha := by
    cases a with
    | execute => exact absurd rfl ha
    | tick =>
      have htimers : (unframed m).timers = m.timers := rfl
      simp only [act, tick, htimers]
      split <;> rfl
    | reset => rfl
    | place _ => rfl
    | countFrame => rfl
    | keys _ => rfl
    | consume => rfl
  timing := .inr fun _ => rfl

/-! ### Steps -/

theorem steps_of_halted {m : Machine} (h : m.halted = true) (n : Nat) : m.steps n = ⟨m, [], 0⟩ := by
  cases n with
  | zero => rfl
  | succ n => rw [steps, if_pos h]

theorem steps_succ {m : Machine} (h : ¬m.halted = true) (n : Nat) :
    m.steps (n + 1) = ⟨(m.advance.1.steps n).machine, m.advance.2 ++ (m.advance.1.steps n).signals,
      (m.advance.1.steps n).executed + 1⟩ := by
  rw [steps, if_neg h]

/-- Steps are taken up where they were left. -/
theorem steps_add (m : Machine) (a b : Nat) :
    m.steps (a + b) = ⟨((m.steps a).machine.steps b).machine,
      (m.steps a).signals ++ ((m.steps a).machine.steps b).signals,
      (m.steps a).executed + ((m.steps a).machine.steps b).executed⟩ := by
  induction a generalizing m with
  | zero => simp [steps]
  | succ a ih =>
    by_cases h : m.halted = true
    · simp [steps_of_halted h]
    · rw [Nat.add_right_comm, steps_succ h, ih, steps_succ h a]
      simp [List.append_assoc, Nat.add_right_comm]

theorem advance_cycles (m : Machine) : m.advance.1.cycles = m.cycles + 1 := by
  rw [advance_fst]
  split
  · rw [tick_eq]
    exact execute_cycles m
  · exact execute_cycles m

theorem advance_halted (m : Machine) : m.advance.1.halted = m.execute.1.halted := by
  rw [advance_fst, tick_eq]
  split <;> rfl

theorem steps_cycles (m : Machine) (n : Nat) :
    (m.steps n).machine.cycles = m.cycles + (m.steps n).executed := by
  induction n generalizing m with
  | zero => rfl
  | succ n ih =>
    by_cases h : m.halted = true
    · rw [steps_of_halted h]
      rfl
    · rw [steps_succ h, ih, advance_cycles, Nat.add_assoc, Nat.add_comm 1]

theorem steps_short {m : Machine} {n : Nat} (h : (m.steps n).executed < n) :
    (m.steps n).machine.halted = true := by
  induction n generalizing m with
  | zero => exact absurd h (Nat.not_lt_zero _)
  | succ n ih =>
    by_cases hm : m.halted = true
    · rw [steps_of_halted hm]
      exact hm
    · rw [steps_succ hm] at h ⊢
      exact ih (Nat.lt_of_succ_lt_succ h)

/-! ### Frames -/

theorem closeFrame_fields (m : Machine) :
    m.closeFrame = { m with
      timers := m.closeFrame.timers, tones := m.closeFrame.tones, frames := m.frames + 1 } := by
  rw [closeFrame, tick_eq]
  split <;> rfl

theorem frame_counts (m : Machine) (c : Int) :
    (m.frame c).executed = (m.steps c.toNat).executed := by
  rw [frame_executed]
  split
  · rename_i h
    rw [steps_of_halted h]
  · rfl

theorem frame_eq_steps (m : Machine) (c : Int) :
    (m.frame c).machine =
      if m.halted then (m.steps c.toNat).machine else (m.steps c.toNat).machine.closeFrame := by
  rw [frame_machine]
  split
  · rename_i h
    rw [steps_of_halted h]
  · rfl

theorem frame_cycles (m : Machine) (c : Int) :
    (m.frame c).machine.cycles = m.cycles + (m.frame c).executed := by
  rw [frame_eq_steps, frame_counts, ← steps_cycles]
  split
  · rfl
  · rw [closeFrame_fields]

theorem frame_halted (m : Machine) (c : Int) :
    (m.frame c).machine.halted = (m.steps c.toNat).machine.halted := by
  rw [frame_eq_steps]
  split
  · rfl
  · rw [closeFrame_fields]

theorem frame_short {m : Machine} {c : Int} (h : (m.frame c).executed < c) :
    (m.frame c).machine.halted = true := by
  rw [frame_counts] at h
  rw [frame_halted]
  exact steps_short (by omega)

theorem frame_coupled (m : Machine) (c : Int) : (m.frame c).machine.coupled = m.coupled := by
  rw [frame_eq_steps, ← steps_coupled m c.toNat]
  split
  · rfl
  · rw [closeFrame_fields]

theorem unframed_frame {m : Machine} (hm : m.coupled = true) (c : Int) :
    unframed (m.frame c).machine = unframed (m.steps c.toNat).machine := by
  have hc := (steps_coupled m c.toNat).trans hm
  rw [frame_eq_steps, closeFrame, if_pos hc]
  split <;> rfl

theorem frame_frame {m : Machine} (hm : m.coupled = true) (a b : Nat) :
    unframed ((m.frame a).machine.frame b).machine = unframed (m.frame (a + b)).machine ∧
      (m.frame a).executed + ((m.frame a).machine.frame b).executed =
        (m.frame (a + b)).executed := by
  have hfirst : unframed (m.frame a).machine = unframed (m.steps a).machine := unframed_frame hm a
  have hsecond : (m.frame a).machine.coupled = true := (frame_coupled m a).trans hm
  have hlength : ((a : Int) + b).toNat = a + b := by omega
  -- the second frame begins with another count of frames, and does not notice
  obtain ⟨hmachine, hexecuted⟩ := unframed_mask.steps_eq b hfirst fun _ _ _ _ => trivial
  constructor
  · rw [unframed_frame hsecond, unframed_frame hm, hlength, steps_add]
    exact hmachine
  · rw [frame_counts, frame_counts, frame_counts, hlength, steps_add]
    exact congrArg ((m.steps a).executed + ·) hexecuted

/-- In coupled timing two frames do what one frame of their joint length does, apart from the count
of frames. In either timing a frame counts the instructions that it executes, and executes fewer
than it was asked for only if it leaves the machine halted. A coupled run without a window does what
a frame of its length does, and its exit code says whether the machine is halted. -/
theorem frames_join (m : Machine) :
    (m.coupled = true → ∀ a b : Nat,
      SameButFrames ((m.frame a).machine.frame b).machine (m.frame (a + b)).machine ∧
      (m.frame a).executed + ((m.frame a).machine.frame b).executed =
        (m.frame (a + b)).executed) ∧
    (∀ c : Int, (m.frame c).machine.cycles = m.cycles + (m.frame c).executed ∧
      ((m.frame c).executed < c → (m.frame c).machine.halted = true)) ∧
    (m.coupled = true → ∀ c : Int,
      SameButFrames (m.frame c).machine (debugRun m c).1.machine ∧
      (debugRun m c).1.executed = (m.frame c).executed ∧
      "Executed: " ++ toString (m.frame c).executed ++ "/" ++ toString c ++ " instructions" ∈
        debugLines (debugRun m c).1.machine (debugRun m c).1.executed c ∧
      ((debugRun m c).2 = 1 ↔ (debugRun m c).1.machine.halted = true)) := by
  refine ⟨?_, ?_, ?_⟩
  · intro hm a b
    obtain ⟨hmachine, hexecuted⟩ := frame_frame hm a b
    exact ⟨(unframed_eq_iff _ _).mp hmachine, hexecuted⟩
  · exact fun c => ⟨frame_cycles m c, frame_short⟩
  · intro hm c
    have hmachine : unframed (m.frame c).machine = unframed (debugRun m c).1.machine :=
      unframed_frame hm c
    have hexecuted : (debugRun m c).1.executed = (m.frame c).executed := (frame_counts m c).symm
    refine ⟨(unframed_eq_iff _ _).mp hmachine, hexecuted, ?_, ?_⟩
    · rw [hexecuted]
      simp [debugLines]
    · simp [debugRun]

theorem loneReturn_advance : loneReturn.advance.1.halted = true := by
  have hi : Instruction.decode? loneReturn.nextWord = some .ret := by
    rw [loneReturn_nextWord]
    decide
  rw [advance_halted, execute_eq_carryOut hi]
  rfl

/-- A frame in which the machine halts, and one that finds it halted. -/
theorem loneReturn_joins :
    SameButFrames ((loneReturn.frame 1).machine.frame 2).machine (loneReturn.frame 3).machine ∧
    (loneReturn.frame 3).executed = 1 ∧ (loneReturn.frame 3).machine.halted = true ∧
    (debugRun loneReturn 3).2 = 1 := by
  obtain ⟨hsplit, hshort, hdebug⟩ := frames_join loneReturn
  have hlive : ¬loneReturn.halted = true := nofun
  have hexecuted : (loneReturn.frame 3).executed = 1 := by
    rw [frame_counts]
    show (loneReturn.steps (2 + 1)).executed = 1
    rw [steps_succ hlive, steps_of_halted loneReturn_advance]
  have hhalted := (hshort 3).2 (by rw [hexecuted]; decide)
  obtain ⟨hsame, -, -, hexit⟩ := hdebug rfl 3
  exact ⟨(hsplit rfl 1 2).1, hexecuted, hhalted, hexit.mpr (hsame.halted.trans hhalted)⟩

end Chip8.Machine
