import Chip8.Machine.Patched
import Chip8.Proofs.Effects
import Chip8.Proofs.Trails

/-!
# Bounds

Program counter, index, return addresses and the fault history stay in their bounds along every run.
The other parts are bounded by their types. From a machine within bounds nothing that the host asks
for is refused on the machine's account: only an argument of the host can be.
-/

namespace Chip8.Machine

/-! ### The bounds that no type gives -/

structure InRange (m : Machine) : Prop where
  pc : IsAddress m.pc
  index : IsAddress m.index
  depth : m.stack.length ≤ 16
  returns : ∀ a ∈ m.stack, IsAddress a
  history : m.faults.length ≤ 256

theorem powerOn_inRange (noise : Noise) (coupled : Bool) : InRange (powerOn noise coupled) where
  pc := show IsAddress 0x200 from ⟨by decide, by decide⟩
  index := show IsAddress 0 from ⟨by decide, by decide⟩
  depth := Nat.zero_le _
  returns := by
    intro a ha
    cases ha
  history := Nat.zero_le _

theorem remember_length_le (faults : List Fault) (f : Fault) :
    (remember faults f).length ≤ 256 := by
  simp only [remember, Layout.faultHistory, List.length_drop, List.length_append,
    List.length_singleton]
  omega

theorem fetch_inRange {m : Machine} (h : InRange m) : InRange m.fetch :=
  ⟨wrap_isAddress _, h.index, h.depth, h.returns, h.history⟩

theorem record_inRange {m : Machine} (h : InRange m) (f : Fault) : InRange (m.record f) := by
  have hf := remember_length_le m.faults f
  exact ⟨h.pc, h.index, h.depth, h.returns, by simpa only [record] using hf⟩

theorem count_inRange {m : Machine} (h : InRange m) : InRange m.count :=
  ⟨h.pc, h.index, h.depth, h.returns, h.history⟩

theorem effect_inRange {i : Instruction} {m n : Machine} (h : InRange m)
    (he : i.effect m = .ok n) : InRange n := by
  cases Instruction.effect_outcome he with
  | ret a rest _ hs =>
    have hd := h.depth
    rw [hs, List.length_cons] at hd
    refine ⟨h.returns a ?_, h.index, by exact Nat.le_of_succ_le hd, ?_, h.history⟩
    · rw [hs]
      exact List.mem_cons_self ..
    · intro b hb
      refine h.returns b ?_
      rw [hs]
      exact List.mem_cons_of_mem _ hb
  | call t _ hd =>
    refine ⟨target_isAddress t, h.index, hd, ?_, h.history⟩
    intro b hb
    rcases List.mem_cons.mp hb with rfl | hb
    · exact h.pc
    · exact h.returns b hb
  | plain memory v index pc timers display noise waiting hx hp =>
    refine ⟨?_, ?_, h.depth, h.returns, h.history⟩
    · rcases hp with rfl | hp
      · exact h.pc
      · exact hp
    · rcases hx with rfl | hx
      · exact h.index
      · exact hx

theorem execute_inRange {m : Machine} (h : InRange m) : InRange m.execute.1 := by
  rcases execute_cases m with ⟨i, n, -, he, hx⟩ | ⟨kind, -, hx⟩
  · rw [hx]
    exact count_inRange (effect_inRange (fetch_inRange h) he)
  · rw [hx]
    exact count_inRange (record_inRange (fetch_inRange h) _)

theorem tick_eq (m : Machine) :
    m.tick.1 = { m with timers := m.timers.tick, tones := m.tick.1.tones } := by
  unfold tick
  split <;> rfl

theorem move_inRange {m n : Machine} {s : List Signal} (move : Move m s n) (h : InRange m) :
    InRange n := by
  cases move with
  | execute _ => exact execute_inRange h
  | tick =>
    rw [tick_eq]
    exact ⟨h.pc, h.index, h.depth, h.returns, h.history⟩
  | place _ => exact ⟨h.pc, h.index, h.depth, h.returns, h.history⟩
  | countFrame => exact ⟨h.pc, h.index, h.depth, h.returns, h.history⟩
  | keys _ => exact ⟨h.pc, h.index, h.depth, h.returns, h.history⟩
  | consume => exact ⟨h.pc, h.index, h.depth, h.returns, h.history⟩

theorem reachable_inRange {m : Machine} (h : Reachable m) : InRange m :=
  h.invariant powerOn_inRange move_inRange

end Chip8.Machine

/-! ### The machine that looks at its operands -/

namespace Chip8.Patched

theorem tick_ofMachine (m : Machine) : (ofMachine m).tick = (ofMachine m.tick.1, m.tick.2) := rfl

theorem advance_ofMachine (m : Machine) :
    (ofMachine m).advance = (ofMachine m.advance.1, m.advance.2, none) := by
  have hp : (ofMachine m.execute.1).machine.coupled = m.execute.1.coupled := rfl
  simp only [advance, execute_ofMachine, hp, tick_ofMachine, Machine.advance]
  split <;> rfl

theorem step_ofMachine (m : Machine) :
    (ofMachine m).step = (ofMachine m.step.1, m.step.2.1, .ok m.step.2.2) := by
  have hp : (ofMachine m).machine.halted = m.halted := rfl
  simp only [step, advance_ofMachine, hp, Machine.step]
  split <;> rfl

theorem steps_ofMachine (m : Machine) (n : Nat) :
    (ofMachine m).steps n =
      (ofMachine (m.steps n).machine, (m.steps n).signals, .ok (m.steps n).executed) := by
  induction n generalizing m with
  | zero => rfl
  | succ n ih =>
    have hp : (ofMachine m).machine.halted = m.halted := rfl
    simp only [steps, advance_ofMachine, hp, ih, Machine.steps]
    split <;> rfl

theorem frame_ofMachine (m : Machine) (cycles : Value) :
    (ofMachine m).frame cycles =
      match m.frameOf cycles with
      | .ok r => (ofMachine r.machine, r.signals, .ok r.executed)
      | .error e => (ofMachine m, [], .error e) := by
  have hp : (ofMachine m).machine.halted = m.halted := rfl
  simp only [frame, hp, Machine.frameOf]
  split
  · rfl
  · rename_i hm
    cases cycles.count with
    | error e => rfl
    | ok n =>
      have hq : (ofMachine (m.steps n.toNat).machine).machine.coupled =
          (m.steps n.toNat).machine.coupled := rfl
      simp only [steps_ofMachine, hq, Except.map, Machine.frame]
      rw [if_neg hm]
      split
      · rw [List.append_nil]
        rfl
      · rfl

/-- Without patches an operation does what it does to the machine, and is answered in the same way.
-/
theorem perform_ofMachine (m : Machine) (op : Machine.Op) :
    (ofMachine m).perform op =
      (ofMachine (m.perform op).machine, (m.perform op).signals, (m.perform op).answer) := by
  cases op with
  | step =>
    simp only [perform, step_ofMachine, Machine.perform]
    rfl
  | frame cycles =>
    simp only [perform, frame_ofMachine, Machine.perform]
    cases m.frameOf cycles with
    | error e => rfl
    | ok r => rfl
  | _ => rfl

end Chip8.Patched

namespace Chip8.Machine

/-! ### Access by value -/

theorem locate_register (x : Reg) (b : UInt8) :
    Slot.locate Layout.registerCount (.int x.val) (.int b.toNat) = .ok (x, b) := by
  have hx := x.isLt
  have hb := b.toNat_lt
  have hf : Extent.fits (x.val : Int) := ⟨by omega, by omega⟩
  have hn : ¬((b.toNat : Int) < 0 ∨ 256 ≤ (b.toNat : Int)) := by omega
  have hs : Slot.ofPosition? Layout.registerCount (x.val : Int) = some x := by
    have hk : ¬(x.val : Int) < 0 := by omega
    have hr : 0 ≤ (x.val : Int) ∧ (x.val : Int) < (Layout.registerCount : Int) :=
      ⟨by omega, by simp only [Layout.registerCount]; omega⟩
    simp only [Slot.ofPosition?, hk, if_false, dif_pos hr]
    rfl
  simp only [Slot.locate, Value.toInt?, Value.count, hf, hs, hn, not_true_eq_false, if_false,
    byteOf_natCast_toNat]

theorem assign?_register (m : Machine) (x : Reg) (b : UInt8) :
    m.assign? (.int x.val) (.int b.toNat) = .ok (m.setReg x b) := by
  rw [assign?, locate_register]
  rfl

theorem down?_lowDigit (k : Keypad) (b : UInt8) :
    k.down? (.int ((b.toNat % 16 : Nat) : Int)) = .ok (k.isDown ⟨b.toNat % 16, by omega⟩) := by
  have hr : 0 ≤ ((b.toNat % 16 : Nat) : Int) ∧ ((b.toNat % 16 : Nat) : Int) < 16 := by omega
  simp only [Keypad.down?, Keypad.key?, Value.toInt?, dif_pos hr]
  rfl

/-! ### Well-formed machines -/

/-- The size and the range of every part of a machine. -/
structure WellFormed (m : Machine) : Prop extends InRange m where
  memory_size : m.memory.cells.toList.length = 4096
  memory_bytes : ∀ b ∈ m.memory.cells.toList, b.toNat ≤ 255
  register_count : m.v.toList.length = 16
  register_bytes : ∀ b ∈ m.v.toList, b.toNat ≤ 255
  delay : m.timers.delay.toNat ≤ 255
  sound : m.timers.sound.toNat ≤ 255
  pixel_count : m.display.frame.toList.length = 2048
  pixel_values : ∀ p ∈ m.display.frame.toList, p.toNat = 0 ∨ p.toNat = 1
  key_count : m.keypad.held.toList.length = 16

/-- No request is refused on the machine's account. An instruction can be executed, the timers can
be ticked, and a frame can be run of any number of instructions. The machine that looks at every
operand refuses nothing that this one does not. Every byte can be stored in every register, and
every register selects a key. -/
structure Answering (m : Machine) : Prop where
  step : (m.perform .step).answer = .ran (!m.halted)
  tick : (m.perform .tick).answer = .done
  frame : ∀ cycles n, cycles.toInt? = some n → ∃ k, (m.perform (.frame cycles)).answer = .count k
  checked : ∀ op, (Patched.ofMachine m).perform op =
    (.ofMachine (m.perform op).machine, (m.perform op).signals, (m.perform op).answer)
  register : ∀ (x : Reg) (b : UInt8), m.assign? (.int x.val) (.int b.toNat) = .ok (m.setReg x b)
  key : ∀ x : Reg, m.keypad.down? (.int (((m.reg x).toNat % 16 : Nat) : Int)) =
    .ok (m.keypad.isDown ⟨(m.reg x).toNat % 16, m.reg_mod_lt x⟩)

theorem inRange_wellFormed {m : Machine} (h : InRange m) : WellFormed m where
  toInRange := h
  memory_size := by simp
  memory_bytes := by
    intro b _
    exact Nat.le_of_lt_succ b.toNat_lt
  register_count := by simp
  register_bytes := by
    intro b _
    exact Nat.le_of_lt_succ b.toNat_lt
  delay := Nat.le_of_lt_succ m.timers.delay.toNat_lt
  sound := Nat.le_of_lt_succ m.timers.sound.toNat_lt
  pixel_count := by simp
  pixel_values := by
    intro p _
    cases p with
    | false => exact .inl rfl
    | true => exact .inr rfl
  key_count := by simp

theorem step_answer (m : Machine) : (m.perform .step).answer = .ran (!m.halted) := by
  simp only [perform, step]
  split
  · rename_i hm
    rw [hm]
    rfl
  · rename_i hm
    have hm : m.halted = false := by simpa using hm
    rw [hm]
    rfl

theorem frame_answer (m : Machine) (cycles : Value) (n : Int) (hn : cycles.toInt? = some n) :
    ∃ k, (m.perform (.frame cycles)).answer = .count k := by
  have hc : cycles.count = .ok n := by simp only [Value.count, hn]
  simp only [perform, frameOf, hc]
  by_cases hm : m.halted = true
  · rw [if_pos hm]
    exact ⟨0, rfl⟩
  · rw [if_neg hm]
    exact ⟨(m.frame n).executed, rfl⟩

theorem answering (m : Machine) : Answering m where
  step := step_answer m
  tick := rfl
  frame := frame_answer m
  checked := Patched.perform_ofMachine m
  register := assign?_register m
  key := fun x => down?_lowDigit m.keypad (m.reg x)

end Chip8.Machine
