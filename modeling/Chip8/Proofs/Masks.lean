import Chip8.Proofs.Deeds

/-!
# Masks

A mask covers parts of a machine with fixed values; two machines that look alike under it agree on
all the rest. If what happens to a machine never depends on the covered parts, machines that look
alike stay alike under every operation and answer alike. That is a statement about two runs; it
comes down to one equation for each function, about one machine and the machine with its mask on.
What a mask has to do with instructions is the same for all masks and is said once, in
`Blots.effect`.
-/

namespace Chip8.Machine

open Instruction (decode?)

def answers (m : Machine) : List Op → List Answer
  | [] => []
  | op :: rest => (m.perform op).answer :: (m.perform op).machine.answers rest

/-! ### Covers -/

/-- What instructions read is not covered, and what they write comes out the same on a covered
machine. -/
structure Blots (cover : Machine → Machine) : Prop where
  memory : ∀ m, (cover m).memory = m.memory
  v : ∀ m, (cover m).v = m.v
  index : ∀ m, (cover m).index = m.index
  pc : ∀ m, (cover m).pc = m.pc
  stack : ∀ m, (cover m).stack = m.stack
  keypad : ∀ m, (cover m).keypad = m.keypad
  picture : ∀ m, (cover m).display.frame = m.display.frame
  random : ∀ m, (cover m).noise.draw.1 = m.noise.draw.1
  write : ∀ m memory v index pc stack,
    cover { cover m with memory := memory, v := v, index := index, pc := pc, stack := stack } =
      cover { m with memory := memory, v := v, index := index, pc := pc, stack := stack }
  paint : ∀ m frame v, cover { cover m with display := ⟨frame, true⟩, v := v } =
    cover { m with display := ⟨frame, true⟩, v := v }
  draw : ∀ m v, cover { cover m with noise := (cover m).noise.draw.2, v := v } =
    cover { m with noise := m.noise.draw.2, v := v }
  wait : ∀ m waiting v pc, cover { cover m with waiting := waiting, v := v, pc := pc } =
    cover { m with waiting := waiting, v := v, pc := pc }
  loadDelay : ∀ m b, cover { cover m with timers := { (cover m).timers with delay := b } } =
    cover { m with timers := { m.timers with delay := b } }
  loadSound : ∀ m b, cover { cover m with timers := { (cover m).timers with sound := b } } =
    cover { m with timers := { m.timers with sound := b } }

namespace Blots

variable {cover : Machine → Machine} (h : Blots cover) (m : Machine)

include h

theorem reg (x : Reg) : (cover m).reg x = m.reg x := by
  simp only [Machine.reg, h.v]

theorem skipIf (c : Bool) : cover ((cover m).skipIf c) = cover (m.skipIf c) := by
  rw [Instruction.skipIf_eq, Instruction.skipIf_eq]
  refine (h.write m _ _ _ _ _).trans ?_
  rw [h.memory, h.v, h.index, h.pc, h.stack]

theorem setReg (x : Reg) (b : UInt8) : cover ((cover m).setReg x b) = cover (m.setReg x b) := by
  rw [Machine.setReg, Machine.setReg]
  refine (h.write m _ _ _ _ _).trans ?_
  rw [h.memory, h.v, h.index, h.pc, h.stack]

theorem operate (op : Operator) (x y : Reg) :
    cover ((cover m).operate op x y) = cover (m.operate op x y) := by
  rw [Machine.operate, Machine.operate, h.reg, h.reg]
  cases op.apply (m.reg x) (m.reg y) with
  | mk result f =>
    cases f with
    | none => exact h.setReg m x result
    | some f =>
      -- the flag first, as the instruction does it
      have hflag := h.setReg m flag f
      show cover (((cover m).setReg flag f).setReg x result) =
        cover ((m.setReg flag f).setReg x result)
      rw [← h.setReg, hflag, h.setReg]

/-- No instruction but the one that reads the delay timer sees the difference if the timer is
covered, and none does if it is not. -/
theorem effect (i : Instruction)
    (hi : (∀ x, i ≠ .readDelay x) ∨ (cover m).timers.delay = m.timers.delay) :
    (i.effect (cover m)).map cover = (i.effect m).map cover := by
  cases i with
  | clear =>
    refine congrArg Except.ok ((h.paint m Frame.dark _).trans ?_)
    rw [h.v]
    rfl
  | ret =>
    simp only [Instruction.effect, h.stack]
    cases m.stack with
    | nil => rfl
    | cons address rest =>
      refine congrArg Except.ok ((h.write m _ _ _ _ _).trans ?_)
      rw [h.memory, h.v, h.index]
  | call t =>
    simp only [Instruction.effect, h.stack, h.pc]
    split
    · rfl
    · refine congrArg Except.ok ((h.write m _ _ _ _ _).trans ?_)
      rw [h.memory, h.v, h.index]
  | jump t =>
    refine congrArg Except.ok ((h.write m _ _ _ _ _).trans ?_)
    rw [h.memory, h.v, h.index, h.stack]
  | jumpFrom t =>
    refine congrArg Except.ok ((h.write m _ _ _ _ _).trans ?_)
    rw [h.memory, h.v, h.index, h.stack, h.reg]
  | setIndex t =>
    refine congrArg Except.ok ((h.write m _ _ _ _ _).trans ?_)
    rw [h.memory, h.v, h.pc, h.stack]
  | addIndex x =>
    refine congrArg Except.ok ((h.write m _ _ _ _ _).trans ?_)
    rw [h.memory, h.v, h.pc, h.stack, h.reg, h.index]
  | glyph x =>
    refine congrArg Except.ok ((h.write m _ _ _ _ _).trans ?_)
    rw [h.memory, h.v, h.pc, h.stack, h.reg]
  | digits x =>
    refine congrArg Except.ok ((h.write m _ _ _ _ _).trans ?_)
    rw [h.memory, h.v, h.pc, h.stack, h.reg, h.index]
  | save x =>
    refine congrArg Except.ok ((h.write m _ _ _ _ _).trans ?_)
    rw [lowRegisters, h.memory, h.v, h.pc, h.stack, h.index]
    rfl
  | restore x =>
    refine congrArg Except.ok ((h.write m _ _ _ _ _).trans ?_)
    simp only [h.memory, h.pc, h.stack, h.index, h.reg]
  | skipIfByte x b =>
    simp only [Instruction.effect, h.reg]
    exact congrArg Except.ok (h.skipIf m _)
  | skipUnlessByte x b =>
    simp only [Instruction.effect, h.reg]
    exact congrArg Except.ok (h.skipIf m _)
  | skipIfEqual x y =>
    simp only [Instruction.effect, h.reg]
    exact congrArg Except.ok (h.skipIf m _)
  | skipUnlessEqual x y =>
    simp only [Instruction.effect, h.reg]
    exact congrArg Except.ok (h.skipIf m _)
  | skipIfKey x =>
    simp only [Instruction.effect, h.reg, h.keypad]
    exact congrArg Except.ok (h.skipIf m _)
  | skipUnlessKey x =>
    simp only [Instruction.effect, h.reg, h.keypad]
    exact congrArg Except.ok (h.skipIf m _)
  | loadByte x b => exact congrArg Except.ok (h.setReg m x b)
  | addByte x b =>
    simp only [Instruction.effect, h.reg]
    exact congrArg Except.ok (h.setReg m x _)
  | operate op x y => exact congrArg Except.ok (h.operate m op x y)
  | random x mask =>
    refine congrArg Except.ok ((h.draw m _).trans ?_)
    simp only [h.v, h.random]
    rfl
  | draw x y height =>
    refine congrArg Except.ok ((h.paint m _ _).trans ?_)
    simp only [Display.draw, h.v, h.reg, h.memory, h.index, h.picture]
    rfl
  | readDelay x =>
    rcases hi with hi | hdelay
    · exact absurd rfl (hi x)
    · simp only [Instruction.effect, hdelay]
      exact congrArg Except.ok (h.setReg m x _)
  | awaitKey x =>
    have hkeys : (cover m).keypad.lowest? = m.keypad.lowest? := by rw [h.keypad]
    simp only [Instruction.effect, hkeys]
    cases m.keypad.lowest? with
    | none =>
      refine congrArg Except.ok ((h.wait m _ _ _).trans ?_)
      rw [h.v, h.pc]
    | some key =>
      refine congrArg Except.ok ((h.wait m _ _ _).trans ?_)
      simp only [h.v, h.pc]
      rfl
  | setDelay x =>
    simp only [Instruction.effect, h.reg]
    exact congrArg Except.ok (h.loadDelay m _)
  | setSound x =>
    simp only [Instruction.effect, h.reg]
    exact congrArg Except.ok (h.loadSound m _)

end Blots

/-- The covered parts have no influence as long as only `allowed` instructions are executed. Either
ticks change covered parts only, or the timing mode is not covered. -/
structure Mask (cover : Machine → Machine) (allowed : Instruction → Prop) : Prop
    extends Blots cover where
  halted : ∀ m, (cover m).halted = m.halted
  delay : (∀ x, ¬allowed (.readDelay x)) ∨ ∀ m, (cover m).timers.delay = m.timers.delay
  fetch : ∀ m, cover (cover m).fetch = cover m.fetch
  count : ∀ m, cover (cover m).count = cover m.count
  fault : ∀ m kind, cover ((cover m).fetch.record ((cover m).faultOf kind)).count =
    cover (m.fetch.record (m.faultOf kind)).count
  act : ∀ m a, a ≠ .execute → cover ((cover m).act a) = cover (m.act a)
  timing : (∀ m, cover m.tick.1 = cover m) ∨ ∀ m, (cover m).coupled = m.coupled

def Legal (allowed : Instruction → Prop) (deeds : List Deed) : Prop :=
  ∀ d ∈ deeds, ∀ i, d.executes i → allowed i

theorem legal_append {allowed : Instruction → Prop} {a b : List Deed} :
    Legal allowed (a ++ b) ↔ Legal allowed a ∧ Legal allowed b := by
  simp only [Legal, List.forall_mem_append]

namespace Mask

variable {cover : Machine → Machine} {allowed : Instruction → Prop}

/-! ### One machine and its cover -/

theorem word (mask : Mask cover allowed) (m : Machine) : (cover m).nextWord = m.nextWord := by
  rw [nextWord, nextWord, mask.memory, mask.pc]

theorem effect (mask : Mask cover allowed) (i : Instruction) (m : Machine) (hi : allowed i) :
    (i.effect (cover m)).map cover = (i.effect m).map cover := by
  refine mask.toBlots.effect m i ?_
  rcases mask.delay with hnever | hdelay
  · refine .inl fun x hx => hnever x ?_
    rwa [← hx]
  · exact .inr (hdelay m)

theorem execute_cover (mask : Mask cover allowed) {m : Machine}
    (legal : ∀ i, decode? m.nextWord = some i → allowed i) :
    cover (cover m).execute.1 = cover m.execute.1 := by
  cases hi : decode? m.nextWord with
  | none =>
    have hc : decode? (cover m).nextWord = none := by rw [mask.word, hi]
    rw [execute_of_decode?_none hi, execute_of_decode?_none hc]
    exact mask.fault m _
  | some i =>
    have hc : decode? (cover m).nextWord = some i := by rw [mask.word, hi]
    have he : (i.effect (cover m).fetch).map cover = (i.effect m.fetch).map cover := by
      rw [← mask.effect i _ (legal i hi), mask.fetch, mask.effect i _ (legal i hi)]
    rw [execute_eq_carryOut hi, execute_eq_carryOut hc, carryOut, carryOut]
    cases hm : i.effect m.fetch with
    | ok n =>
      cases hn : i.effect (cover m).fetch with
      | ok n' =>
        rw [hm, hn] at he
        have he : cover n' = cover n := Except.ok.inj he
        calc cover n'.count = cover (cover n').count := (mask.count n').symm
          _ = cover (cover n).count := by rw [he]
          _ = cover n.count := mask.count n
      | error kind =>
        rw [hm, hn] at he
        cases he
    | error kind =>
      cases hn : i.effect (cover m).fetch with
      | ok n' =>
        rw [hm, hn] at he
        cases he
      | error kind' =>
        rw [hm, hn] at he
        cases Except.error.inj he
        exact mask.fault m kind

/-! ### Two machines that look alike -/

variable {m n : Machine}

theorem act_eq (mask : Mask cover allowed) (h : cover m = cover n) {a : Act} (ha : a ≠ .execute) :
    cover (m.act a) = cover (n.act a) := by
  rw [← mask.act m a ha, h, mask.act n a ha]

theorem execute_eq (mask : Mask cover allowed) (h : cover m = cover n)
    (legal : ∀ i, decode? m.nextWord = some i → allowed i) :
    cover m.execute.1 = cover n.execute.1 := by
  have hw : n.nextWord = m.nextWord := by rw [← mask.word n, ← h, mask.word]
  rw [← mask.execute_cover legal, h, mask.execute_cover (by rw [hw]; exact legal)]

theorem coupled_eq (h : cover m = cover n) (hc : ∀ m, (cover m).coupled = m.coupled) :
    m.coupled = n.coupled := by
  rw [← hc m, h, hc n]

theorem advance_eq (mask : Mask cover allowed) (h : cover m = cover n)
    (legal : ∀ i, decode? m.nextWord = some i → allowed i) :
    cover m.advance.1 = cover n.advance.1 := by
  have hx := mask.execute_eq h legal
  rw [advance_fst, advance_fst]
  rcases mask.timing with ht | hc
  · have hafter (k : Machine) :
        cover (if k.coupled then k.execute.1.tick.1 else k.execute.1) = cover k.execute.1 := by
      split
      · exact ht _
      · rfl
    rw [hafter, hafter, hx]
  · rw [coupled_eq h hc]
    split
    · exact mask.act_eq hx (a := .tick) (by simp)
    · exact hx

theorem closeFrame_eq (mask : Mask cover allowed) (h : cover m = cover n) :
    cover m.closeFrame = cover n.closeFrame := by
  have hcount {m n : Machine} (h : cover m = cover n) : cover m.countFrame = cover n.countFrame :=
    mask.act_eq h (a := .countFrame) (by simp)
  rw [closeFrame, closeFrame]
  rcases mask.timing with ht | hc
  · have hafter (k : Machine) :
        cover (if k.coupled then k.countFrame else k.tick.1.countFrame) = cover k.countFrame := by
      split
      · rfl
      · exact hcount (ht k)
    rw [hafter, hafter]
    exact hcount h
  · rw [coupled_eq h hc]
    split
    · exact hcount h
    · exact hcount (mask.act_eq h (a := .tick) (by simp))

theorem halted_eq (mask : Mask cover allowed) (h : cover m = cover n) : m.halted = n.halted := by
  rw [← mask.halted m, h, mask.halted n]

theorem steps_eq (mask : Mask cover allowed) (k : Nat) (h : cover m = cover n)
    (legal : Legal allowed (m.inTurn (m.stepsActs k))) :
    cover (m.steps k).machine = cover (n.steps k).machine ∧
      (m.steps k).executed = (n.steps k).executed := by
  induction k generalizing m n with
  | zero => exact ⟨h, rfl⟩
  | succ k ih =>
    rw [stepsActs] at legal
    rw [steps, steps, ← mask.halted_eq h]
    by_cases hm : m.halted = true
    · rw [if_pos hm, if_pos hm]
      exact ⟨h, rfl⟩
    · rw [if_neg hm] at legal
      rw [if_neg hm, if_neg hm]
      rw [inTurn_append, legal_append, follow_advanceActs] at legal
      have hnext := mask.advance_eq h fun i hi => legal.1 _ (execute_mem_advance m) i ⟨rfl, hi⟩
      obtain ⟨hmachine, hexecuted⟩ := ih hnext legal.2
      exact ⟨hmachine, congrArg (· + 1) hexecuted⟩

theorem frame_eq (mask : Mask cover allowed) (cycles : Int) (h : cover m = cover n)
    (legal : Legal allowed (m.inTurn (m.frameActs cycles))) :
    cover (m.frame cycles).machine = cover (n.frame cycles).machine ∧
      (m.frame cycles).executed = (n.frame cycles).executed := by
  rw [frameActs] at legal
  rw [frame_machine, frame_machine, frame_executed, frame_executed, ← mask.halted_eq h]
  by_cases hm : m.halted = true
  · simp only [if_pos hm]
    exact ⟨h, trivial⟩
  · rw [if_neg hm, inTurn_append, legal_append] at legal
    obtain ⟨hmachine, hexecuted⟩ := mask.steps_eq cycles.toNat h legal.1
    simp only [if_neg hm]
    exact ⟨mask.closeFrame_eq hmachine, hexecuted⟩

/-- Machines that look alike do so after an operation, and answer it alike. -/
theorem perform_eq (mask : Mask cover allowed) (op : Op) (h : cover m = cover n)
    (legal : Legal allowed (m.inTurn (m.actsOf op))) :
    cover (m.perform op).machine = cover (n.perform op).machine ∧
      (m.perform op).answer = (n.perform op).answer := by
  have hhalt := mask.halted_eq h
  have hkeys : m.keypad = n.keypad := by rw [← mask.keypad m, h, mask.keypad n]
  cases op with
  | reset => exact ⟨mask.act_eq h (a := .reset) (by simp), rfl⟩
  | load data =>
    rw [perform, perform, load, load]
    cases data.program with
    | error e => exact ⟨h, rfl⟩
    | ok program => exact ⟨mask.act_eq h (a := .place program) (by simp), rfl⟩
  | step =>
    rw [actsOf] at legal
    rw [perform, perform, step, step, ← hhalt]
    by_cases hm : m.halted = true
    · simp only [if_pos hm]
      exact ⟨h, trivial⟩
    · rw [if_neg hm] at legal
      have hnext := mask.advance_eq h fun i hi => legal _ (execute_mem_advance m) i ⟨rfl, hi⟩
      simp only [if_neg hm]
      exact ⟨hnext, trivial⟩
  | frame cycles =>
    rw [actsOf] at legal
    rw [perform, perform]
    cases hc : cycles.count with
    | error e =>
      rw [frameOf, frameOf, hc, ← hhalt]
      cases m.halted with
      | true => exact ⟨h, rfl⟩
      | false => exact ⟨h, rfl⟩
    | ok k =>
      rw [hc] at legal
      obtain ⟨hmachine, hexecuted⟩ := mask.frame_eq k h legal
      rw [frameOf_of_count m hc, frameOf_of_count n hc]
      exact ⟨hmachine, congrArg Answer.count hexecuted⟩
  | tick => exact ⟨mask.act_eq h (a := .tick) (by simp), rfl⟩
  | setKey index pressed =>
    rw [perform, perform, setKey, setKey, ← hkeys]
    cases m.keypad.set index pressed with
    | error e => exact ⟨h, rfl⟩
    | ok keypad => exact ⟨mask.act_eq h (a := .keys keypad) (by simp), rfl⟩
  | releaseKeys =>
    simp only [perform, releaseKeys_eq]
    exact ⟨mask.act_eq h (a := .keys .released) (by simp), trivial⟩
  | consume =>
    have hframe : m.display.frame = n.display.frame := by
      rw [← mask.picture m, h, mask.picture n]
    exact ⟨mask.act_eq h (a := .consume) (by simp), congrArg Answer.picture hframe⟩

/-- Machines that look alike do so after a run, and answer alike all along. -/
theorem after_eq (mask : Mask cover allowed) (ops : List Op) (h : cover m = cover n)
    (legal : Legal allowed (m.deeds ops)) :
    cover (m.after ops) = cover (n.after ops) ∧ m.answers ops = n.answers ops := by
  induction ops generalizing m n with
  | nil => exact ⟨h, rfl⟩
  | cons op rest ih =>
    rw [deeds_cons, legal_append] at legal
    obtain ⟨hmachine, hanswer⟩ := mask.perform_eq op h legal.1
    obtain ⟨hafter, hanswers⟩ := ih hmachine legal.2
    refine ⟨hafter, ?_⟩
    rw [answers, answers, hanswer, hanswers]

end Mask

end Chip8.Machine
