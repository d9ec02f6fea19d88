import Mathlib.Data.Finset.Max
import Mathlib.Order.Fin.Basic
import Chip8.Proofs.KeyWait
import Chip8.Proofs.Tones

/-!
# How long a wait was

A machine that waits for a key executes the same instruction over and over, and each time leaves
itself as it was. When keys come at last, it goes on as if they had been held from the start: only
its count of instructions, and the timers if they are coupled to the instructions, tell how long it
has waited.
-/

namespace Chip8

/-! ### Keys pressed together -/

namespace Keypad

def pressAll (k : Keypad) (keys : List (Fin 16)) : Keypad :=
  keys.foldl (fun k key => k.press key true) k

theorem isDown_pressAll (k : Keypad) (keys : List (Fin 16)) (key : Fin 16) :
    (k.pressAll keys).isDown key = true ↔ k.isDown key = true ∨ key ∈ keys := by
  rw [pressAll, isDown_foldl_press]
  by_cases h : key ∈ keys <;> simp [h]

theorem lowest?_eq_some {k : Keypad} {low : Fin 16} (hlow : k.isDown low = true)
    (hleast : ∀ key, k.isDown key = true → low ≤ key) : k.lowest? = some low := by
  refine List.find?_eq_some_iff_getElem.mpr ⟨hlow, low.val, by simp, by simp, ?_⟩
  intro j hj
  have hup : ¬k.isDown ⟨j, hj.trans low.isLt⟩ = true :=
    fun hdown => Nat.not_le_of_lt hj (hleast _ hdown)
  simpa using hup

theorem pressAll_congr (k : Keypad) {a b : List (Fin 16)} (h : ∀ key, key ∈ a ↔ key ∈ b) :
    k.pressAll a = k.pressAll b := by
  refine ext_isDown fun key => ?_
  rw [Bool.eq_iff_iff, isDown_pressAll, isDown_pressAll, h]

theorem lowest?_pressAll {k : Keypad} (hk : ∀ key, k.isDown key = false) {a : List (Fin 16)}
    {keys : Finset (Fin 16)} (ha : ∀ key, key ∈ a ↔ key ∈ keys) (hsome : keys.Nonempty) :
    (k.pressAll a).lowest? = some (keys.min' hsome) := by
  have hdown (key : Fin 16) : (k.pressAll a).isDown key = true ↔ key ∈ keys := by
    simp [isDown_pressAll, hk, ha]
  refine lowest?_eq_some ((hdown _).mpr (keys.min'_mem hsome)) ?_
  exact fun key hkey => keys.min'_le key ((hdown key).mp hkey)

end Keypad

/-! ### Time that passes -/

namespace Timers

def later (t : Timers) (ticks : Nat) : Timers :=
  ⟨UInt8.ofNat (t.delay.toNat - ticks), UInt8.ofNat (t.sound.toNat - ticks)⟩

theorem ofNat_sub_toNat (b : UInt8) (ticks : Nat) :
    (UInt8.ofNat (b.toNat - ticks)).toNat = b.toNat - ticks := by
  have hb := b.toNat_lt
  rw [UInt8.toNat_ofNat']
  omega

theorem later_zero (t : Timers) : t.later 0 = t := by
  simp [later]

theorem later_later (t : Timers) (a b : Nat) : (t.later a).later b = t.later (a + b) := by
  simp only [later, ofNat_sub_toNat, Nat.sub_sub]

theorem tick_eq_later (t : Timers) : t.tick = t.later 1 := by
  simp only [tick, later, ← countDown_toNat, UInt8.ofNat_toNat]

end Timers

namespace Machine

open Word (ofDigits)

theorem tonesWithin_add (a b sound : Nat) :
    tonesWithin (a + b) sound = tonesWithin a sound + tonesWithin b (sound - a) := by
  induction a generalizing sound with
  | zero => rw [Nat.zero_add, tonesWithin_zero, Nat.zero_add, Nat.sub_zero]
  | succ a ih =>
    rw [Nat.add_right_comm, tonesWithin_succ, tonesWithin_succ, ih, Nat.sub_sub,
      Nat.add_comm 1 a, Nat.add_assoc]

/- The machine some ticks later. -/
def elapse (m : Machine) (ticks : Nat) : Machine :=
  { m with
    timers := m.timers.later ticks
    tones := m.tones + tonesWithin ticks m.timers.sound.toNat }

theorem elapse_zero (m : Machine) : m.elapse 0 = m := by
  rw [elapse, Timers.later_zero, tonesWithin_zero]
  rfl

theorem elapse_elapse (m : Machine) (a b : Nat) : (m.elapse a).elapse b = m.elapse (a + b) := by
  have hsound : (m.timers.later a).sound.toNat = m.timers.sound.toNat - a :=
    Timers.ofNat_sub_toNat _ _
  simp only [elapse, Timers.later_later, hsound, tonesWithin_add, Nat.add_assoc]

theorem elapse_comm (m : Machine) (a b : Nat) : (m.elapse a).elapse b = (m.elapse b).elapse a := by
  rw [elapse_elapse, elapse_elapse, Nat.add_comm]

theorem tick_eq_elapse (m : Machine) : m.tick.1 = m.elapse 1 := by
  have htones : tonesWithin 1 m.timers.sound.toNat = if m.timers.sound.toNat = 1 then 1 else 0 := by
    rw [← Nat.zero_add 1, tonesWithin_succ, tonesWithin_zero, Nat.add_zero]
  rw [tick_eq, tick_tones, Timers.tick_eq_later, elapse, htones]

theorem after_replicate_tick (m : Machine) (ticks : Nat) :
    m.after (List.replicate ticks .tick) = m.elapse ticks := by
  induction ticks generalizing m with
  | zero => exact (elapse_zero m).symm
  | succ ticks ih =>
    have hnext : (m.perform .tick).machine = m.elapse 1 := tick_eq_elapse m
    rw [List.replicate_succ, after, hnext, ih, elapse_elapse, Nat.add_comm]

/- The ticks that come with some instructions. -/
def pace (m : Machine) (instructions : Nat) : Nat := if m.coupled then instructions else 0

theorem pace_add (m : Machine) (a b : Nat) : m.pace (a + b) = m.pace a + m.pace b := by
  unfold pace
  split <;> rfl

theorem step_eq_elapse {m : Machine} (hm : m.halted = false) :
    (m.perform .step).machine = m.execute.1.elapse (m.pace 1) := by
  have hstep : (m.perform .step).machine = m.advance.1 := by
    simp only [perform, step, hm]
    rfl
  rw [hstep, advance_fst, pace]
  split
  · exact tick_eq_elapse _
  · exact (elapse_zero _).symm

/-! ### Keys that do not come -/

/- A machine that is about to wait: no key is held, and a key is what it asks for. -/
structure Asks (m : Machine) (x : Reg) : Prop where
  live : m.halted = false
  pc : IsAddress m.pc
  word : m.nextWord = ofDigits 0xF x 0x0 0xA
  keys : ∀ key, m.keypad.isDown key = false

theorem step_asks {m : Machine} {x : Reg} (h : Asks m x) :
    (m.perform .step).machine =
      { m.elapse (m.pace 1) with
        lastWord := m.nextWord, lastAddress := m.pc, waiting := true, cycles := m.cycles + 1 } := by
  rw [step_eq_elapse h.live, execute_unheld h.word h.keys, wrap_back h.pc]
  rfl

/- What a wait leaves: the time that it took, and what the next step overwrites. -/
def Waited (m : Machine) (n : Nat) (k : Machine) : Prop :=
  ∃ word address waiting, k = { m.elapse (m.pace n) with
    lastWord := word, lastAddress := address, waiting := waiting, cycles := m.cycles + n }

theorem after_replicate_step {m : Machine} {x : Reg} (h : Asks m x) (n : Nat) :
    Waited m n (m.after (List.replicate n .step)) := by
  induction n generalizing m with
  | zero =>
    have hpace : m.pace 0 = 0 := by rw [pace, ite_self]
    refine ⟨m.lastWord, m.lastAddress, m.waiting, ?_⟩
    rw [hpace, elapse_zero]
    rfl
  | succ n ih =>
    have hnext : Asks (m.perform .step).machine x := by
      rw [step_asks h]
      exact ⟨h.live, h.pc, h.word, h.keys⟩
    obtain ⟨word, address, waiting, hrest⟩ := ih hnext
    refine ⟨word, address, waiting, ?_⟩
    rw [List.replicate_succ, after, hrest, step_asks h, Nat.add_comm n 1, pace_add,
      ← elapse_elapse, ← Nat.add_assoc]
    rfl

/-! ### Keys that come -/

def pressing (keys : List (Fin 16)) : List Op :=
  keys.map fun key => .setKey (.int key.val) (.bool true)

theorem after_pressing (m : Machine) (keys : List (Fin 16)) :
    m.after (pressing keys) = { m with keypad := m.keypad.pressAll keys } := by
  induction keys generalizing m with
  | nil => rfl
  | cons key rest ih =>
    have hfirst : (m.perform (.setKey (.int key.val) (.bool true))).machine =
        { m with keypad := m.keypad.press key true } := by
      simp only [perform, setKey, Keypad.set_key]
    rw [pressing, List.map_cons, after, hfirst]
    exact ih _

/- What the instruction leaves that finds a key. -/
def answered (m : Machine) (x : Reg) (key : Fin 16) : Machine :=
  ({ m.fetch with waiting := false }.setReg x (UInt8.ofNat key.val)).count

theorem step_answered {m : Machine} {x : Reg} {low : Fin 16} (hm : m.halted = false)
    (hw : m.nextWord = ofDigits 0xF x 0x0 0xA) (hlow : m.keypad.lowest? = some low) :
    (m.perform .step).machine = (m.answered x low).elapse (m.pace 1) := by
  have hfetch : m.fetch.keypad.lowest? = some low := hlow
  have hexecute : m.execute.1 = m.answered x low := by
    rw [execute_awaitKey hw]
    simp only [carryOut, Instruction.effect, hfetch]
    rfl
  rw [step_eq_elapse hm, hexecute]

theorem after_answer {m : Machine} {x : Reg} {low : Fin 16} {keys : List (Fin 16)}
    (hm : m.halted = false) (hw : m.nextWord = ofDigits 0xF x 0x0 0xA)
    (hlow : (m.keypad.pressAll keys).lowest? = some low) :
    m.after (pressing keys ++ [.step]) =
      ({ m with keypad := m.keypad.pressAll keys }.answered x low).elapse (m.pace 1) := by
  rw [after_append, after_pressing]
  exact step_answered hm hw hlow

theorem answered_reg (m : Machine) (x : Reg) (key : Fin 16) :
    ((m.answered x key).reg x).toNat = key.val := by
  have hreg : (m.answered x key).reg x = UInt8.ofNat key.val :=
    (reg_setReg _ _ _ _).trans (if_pos rfl)
  rw [hreg, UInt8.toNat_ofNat']
  omega

theorem Waited.pressed {m k : Machine} {n : Nat} (h : Waited m n k) (keypad : Keypad) :
    Waited { m with keypad := keypad } n { k with keypad := keypad } := by
  obtain ⟨word, address, waiting, rfl⟩ := h
  exact ⟨word, address, waiting, rfl⟩

theorem Waited.answered {m k : Machine} {n : Nat} (h : Waited m n k) (x : Reg) (key : Fin 16) :
    k.answered x key =
      { (m.answered x key).elapse (m.pace n) with cycles := (m.answered x key).cycles + n } := by
  obtain ⟨word, address, waiting, rfl⟩ := h
  have hcycles : (m.answered x key).cycles + n = m.cycles + n + 1 := Nat.add_right_comm _ _ _
  rw [hcycles]
  rfl

/-- The length of a wait for a key is invisible. However many steps are taken before keys are
pressed, in whatever order, the next step leaves the machine that it would have left at once, apart
from the count of instructions and the ticks that came with them. -/
theorem wait_invisible {m : Machine} {x : Reg} (hm : WellFormed m) (hlive : m.halted = false)
    (hw : m.nextWord = ofDigits 0xF x 0x0 0xA) (hkeys : ∀ key, m.keypad.isDown key = false)
    (n : Nat) {keys : Finset (Fin 16)} (hsome : keys.Nonempty) {late early : List (Fin 16)}
    (hlate : ∀ key, key ∈ late ↔ key ∈ keys) (hearly : ∀ key, key ∈ early ↔ key ∈ keys)
    {slow quick : Machine}
    (hslow : slow = m.after (List.replicate n .step ++ pressing late ++ [.step]))
    (hquick : quick = m.after (pressing early ++ [.step])) :
    slow = { quick.after (List.replicate (m.pace n) .tick) with cycles := quick.cycles + n } ∧
    ∀ k ∈ [slow, quick],
      (k.reg x).toNat = (keys.min' hsome).val ∧ k.pc = wrap (m.pc + 2) ∧ k.waiting = false := by
  have hpressed : m.keypad.pressAll late = m.keypad.pressAll early :=
    m.keypad.pressAll_congr fun key => (hlate key).trans (hearly key).symm
  have hlow := Keypad.lowest?_pressAll hkeys hearly hsome
  rw [after_answer hlive hw hlow] at hquick
  have hwaited : slow = { quick.elapse (m.pace n) with cycles := quick.cycles + n } := by
    have hk := after_replicate_step ⟨hlive, hm.pc, hw, hkeys⟩ n
    rw [List.append_assoc, after_append] at hslow
    generalize m.after (List.replicate n .step) = k at hslow hk
    obtain ⟨hklive, hkword, hkkeys, hkpace⟩ : k.halted = false ∧
        k.nextWord = ofDigits 0xF x 0x0 0xA ∧
        k.keypad.pressAll late = m.keypad.pressAll early ∧ k.pace 1 = m.pace 1 := by
      obtain ⟨word, address, waiting, rfl⟩ := hk
      exact ⟨hlive, hw, hpressed, rfl⟩
    rw [after_answer hklive hkword (hkkeys ▸ hlow), hkkeys, hkpace,
      (hk.pressed _).answered] at hslow
    rw [hslow, hquick, elapse_comm]
    rfl
  have hquicked : (quick.reg x).toNat = (keys.min' hsome).val ∧ quick.pc = wrap (m.pc + 2) ∧
      quick.waiting = false := by
    rw [hquick]
    exact ⟨answered_reg _ _ _, rfl, rfl⟩
  rw [after_replicate_tick]
  refine ⟨hwaited, ?_⟩
  intro k hk
  rw [List.mem_pair] at hk
  obtain rfl | rfl := hk
  · rw [hwaited]
    exact hquicked
  · exact hquicked

/- A coupled machine that asks for a key while a sound is running out. -/
def drowsy : Machine :=
  { (powerOn ⟨fun _ => 0, 0⟩ true).place [0xF3, 0x0A] with timers := ⟨5, 2⟩ }

theorem drowsy_wellFormed : WellFormed drowsy := by
  obtain ⟨hpc, hindex, hdepth, hreturns, hhistory⟩ := powerOn_inRange ⟨fun _ => 0, 0⟩ true
  exact inRange_wellFormed ⟨hpc, hindex, hdepth, hreturns, hhistory⟩

theorem drowsy_word : drowsy.nextWord = ofDigits 0xF 0x3 0x0 0xA := nextWord_place _ _ 0xF3 0x0A

/-- Three steps without a key: the sound ends meanwhile, and the key is the same. -/
theorem drowsy_wait :
    drowsy.after (List.replicate 3 .step ++ pressing [9, 4] ++ [.step]) =
      { (drowsy.after (pressing [4, 9] ++ [.step])).after (List.replicate 3 .tick) with
        cycles := (drowsy.after (pressing [4, 9] ++ [.step])).cycles + 3 } ∧
    ((drowsy.after (List.replicate 3 .step ++ pressing [9, 4] ++ [.step])).reg 0x3).toNat = 4 := by
  have hsome : ({4, 9} : Finset (Fin 16)).Nonempty := ⟨4, by decide⟩
  have hlate : ∀ key, key ∈ [9, 4] ↔ key ∈ ({4, 9} : Finset (Fin 16)) := by decide
  have hearly : ∀ key, key ∈ [4, 9] ↔ key ∈ ({4, 9} : Finset (Fin 16)) := by decide
  have hup : ∀ key, drowsy.keypad.isDown key = false := isDown_powerOn ⟨fun _ => 0, 0⟩ true
  obtain ⟨hsame, hfacts⟩ :=
    wait_invisible drowsy_wellFormed rfl drowsy_word hup 3 hsome hlate hearly rfl rfl
  exact ⟨hsame, (hfacts _ List.mem_cons_self).1⟩

end Machine

end Chip8
