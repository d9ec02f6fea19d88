import Chip8.Cartridge
import Chip8.Proofs.Masks

/-!
# Reloading

A reload reads the cartridge, resets the machine and loads the program, in this order. The checks of
the reader and of the loader are made apart from each other, but what passes the first passes the
second. So a reload that fails has done nothing yet, and one that succeeds leaves the machine that a
fresh start would have made.
-/

namespace Chip8.Cartridge

open Machine (powerOn)

/-! ### What the reader accepts is loaded -/

theorem validate_bound {data : List UInt8} {name : Text} (h : validate data name = .ok ()) :
    data.length ≤ Layout.maxProgramSize := by
  unfold validate at h
  split at h
  · cases h
  · split at h
    · cases h
    · rename_i hsize
      exact Nat.le_of_not_lt hsize

theorem load_of_validate {data : List UInt8} {name : Text} (h : validate data name = .ok ())
    (m : Machine) : m.load (.bytes data) = .ok (m.place data, [.loaded data.length]) := by
  have hsize : ¬Layout.maxProgramSize < data.length := Nat.not_lt_of_le (validate_bound h)
  have hprogram : (ProgramData.bytes data).program = .ok data := by
    simp only [ProgramData.program, ProgramData.toBytes, if_neg hsize]
  rw [Machine.load, hprogram]

theorem validate_of_bytes {disk : Disk} {path : Text} {data : List UInt8}
    (h : bytes disk path = .ok data) : validate data (baseName path) = .ok () := by
  unfold bytes at h
  split at h
  · cases h
  · split at h
    · cases h
    · rename_i hv
      cases h
      exact hv

/-! ### Starts and reloads -/

theorem read_value (disk : Disk) (path : Text) : (read disk path).value = bytes disk path := by
  unfold read
  split
  · rename_i h
    exact h.symm
  · rename_i h
    exact h.symm

theorem installWith_value {data : List UInt8} {name : Text} (h : validate data name = .ok ())
    (m : Machine) (last : Machine → Record) :
    (installWith m data last).value = .ok (m.place data) := by
  simp only [installWith, install, load_of_validate h m]

theorem boot_value (disk : Disk) (path : Text) (noise : Noise) (coupled : Bool) :
    (boot disk path noise coupled).value =
      (bytes disk path).map (powerOn noise coupled).place := by
  simp only [boot, read_value]
  cases h : bytes disk path with
  | error e => rfl
  | ok data => exact installWith_value (validate_of_bytes h) _ _

theorem boot_ok {disk : Disk} {path : Text} {noise : Noise} {coupled : Bool} {m : Machine}
    (h : (boot disk path noise coupled).value = .ok m) :
    ∃ data, m = (powerOn noise coupled).place data := by
  rw [boot_value] at h
  cases hb : bytes disk path with
  | error e =>
    rw [hb] at h
    cases h
  | ok data =>
    rw [hb] at h
    cases h
    exact ⟨data, rfl⟩

theorem reload_value (disk : Disk) (path : Text) (m : Machine) :
    (reload disk path m).value =
      match bytes disk path with
      | .error e => (m, some e)
      | .ok data => (m.reset.place data, none) := by
  simp only [reload, read_value]
  cases h : bytes disk path with
  | error e => rfl
  | ok data => simp only [installWith_value (validate_of_bytes h)]

/- What a reload asks of the machine, one thing after the other. -/
def reloadOps (disk : Disk) (path : Text) : List Machine.Op :=
  match bytes disk path with
  | .error _ => []
  | .ok data => [.reset, .load (.bytes data)]

theorem after_reloadOps (disk : Disk) (path : Text) (m : Machine) :
    m.after (reloadOps disk path) = (reload disk path m).value.1 := by
  rw [reload_value, reloadOps]
  cases h : bytes disk path with
  | error e => rfl
  | ok data =>
    have hload := load_of_validate (validate_of_bytes h) m.reset
    simp only [Machine.after, Machine.perform, hload]

/-- A reload fails exactly if a fresh start fails, with the same error, and then leaves the machine
as it was. If it succeeds it leaves the machine of the fresh start, with the source of random bytes
that it had. What passes the check of the reader is never refused after the reset. -/
theorem reload_allOrNothing (disk : Disk) (path : Text) (m : Machine) (noise : Noise) :
    (∀ e, (reload disk path m).value.2 = some e ↔
      (boot disk path noise m.coupled).value = .error e) ∧
    (∀ e, (reload disk path m).value.2 = some e → (reload disk path m).value.1 = m) ∧
    ((reload disk path m).value.2 = none →
      ∃ fresh, (boot disk path noise m.coupled).value = .ok fresh ∧
        (reload disk path m).value.1 = { fresh with noise := m.noise }) ∧
    ∀ data name, validate data name = .ok () →
      m.answers [.reset, .load (.bytes data)] = [.done, .done] := by
  have hlast (data : List UInt8) (name : Text) (hv : validate data name = .ok ()) :
      m.answers [.reset, .load (.bytes data)] = [.done, .done] := by
    simp only [Machine.answers, Machine.perform, load_of_validate hv m.reset]
  rw [reload_value, boot_value]
  cases bytes disk path with
  | error e =>
    refine ⟨?_, fun _ _ => rfl, ?_, hlast⟩
    · intro e'
      simp [Except.map]
    · intro hnone
      cases hnone
  | ok data =>
    refine ⟨?_, ?_, ?_, hlast⟩
    · intro e'
      simp [Except.map]
    · intro e' he
      cases he
    · intro _
      refine ⟨(powerOn noise m.coupled).place data, rfl, ?_⟩
      -- only here does it matter that a reset forgets everything but the source and the timing
      rw [Machine.reset_eq, Machine.powerOn_eq, Machine.powerOn_eq]
      rfl

end Chip8.Cartridge
