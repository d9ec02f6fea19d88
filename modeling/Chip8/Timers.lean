import Chip8.Memory

/-!
# Timers

Two counters that count down to zero at sixty ticks a second. A tone is due at the tick that takes
the sound timer from one to zero.
-/

namespace Chip8

structure Timers where
  delay : UInt8
  sound : UInt8
  deriving DecidableEq, Repr

namespace Timers

def zero : Timers := ⟨0, 0⟩

def reset (t : Timers) : Timers := { t with delay := 0, sound := 0 }

theorem reset_eq (t : Timers) : t.reset = zero := rfl

def countDown (t : UInt8) : UInt8 := if t = 0 then 0 else t - 1

theorem countDown_toNat (t : UInt8) : (countDown t).toNat = t.toNat - 1 := by
  unfold countDown
  split
  · simp_all
  · rename_i h
    have h0 : t.toNat ≠ 0 := fun e => h (UInt8.toNat_inj.mp (by simpa using e))
    rw [UInt8.toNat_sub_of_le]
    · rfl
    · rw [UInt8.le_iff_toNat_le]
      simp only [UInt8.reduceToNat]
      omega

def tick (t : Timers) : Timers := ⟨countDown t.delay, countDown t.sound⟩

/-- Whether the next tick ends a sound. -/
def toneDue (t : Timers) : Bool := t.sound = 1

def loadDelay (t : Timers) (n : Int) : Timers := { t with delay := byteOf n }

def loadSound (t : Timers) (n : Int) : Timers := { t with sound := byteOf n }

def loadDelayValue (t : Timers) (v : Value) : Except OperandError Timers :=
  (v.bits "&").map t.loadDelay

def loadSoundValue (t : Timers) (v : Value) : Except OperandError Timers :=
  (v.bits "&").map t.loadSound

def describe (t : Timers) : String :=
  "Timers(delay=" ++ toString t.delay.toNat ++ ", sound=" ++ toString t.sound.toNat ++ ")"

end Timers

end Chip8
