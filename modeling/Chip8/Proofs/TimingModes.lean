import Chip8.Proofs.InstructionSet
import Chip8.Proofs.Masks

/-!
# Timing modes

Coupled and decoupled timing, and ticks at any time, make a difference to the timers and to the
tones they end with. A program can read one of the timers, by one instruction only. Until it does,
the difference stays where it is.
-/

namespace Chip8.Machine

open Word (ofDigits)

/-- One machine is the other with other timers, another number of tones, another timing mode. -/
def SameButTiming (m n : Machine) : Prop :=
  n = { m with timers := n.timers, tones := n.tones, coupled := n.coupled }

/- A machine with its timing blotted out. -/
def untimed (m : Machine) : Machine :=
  { m with timers := Timers.zero, tones := 0, coupled := false }

theorem untimed_eq_iff (m n : Machine) : untimed m = untimed n ↔ SameButTiming m n := by
  constructor
  · intro h
    have hn : n =
        { untimed n with timers := n.timers, tones := n.tones, coupled := n.coupled } := rfl
    rw [← h] at hn
    exact hn
  · intro h
    rw [h]
    rfl

/-! ### The mask -/

theorem untimed_tick (m : Machine) : untimed m.tick.1 = untimed m := by
  rw [tick_eq]
  rfl

theorem untimed_mask : Mask untimed fun i => ∀ x, i ≠ .readDelay x where
  memory _ := rfl
  v _ := rfl
  index _ := rfl
  pc _ := rfl
  stack _ := rfl
  keypad _ := rfl
  picture _ := rfl
  random _ := rfl
  write _ _ _ _ _ _ := rfl
  paint _ _ _ := rfl
  draw _ _ := rfl
  wait _ _ _ _ := rfl
  loadDelay _ _ := rfl
  loadSound _ _ := rfl
  halted _ := rfl
  delay := .inl fun x hx => hx x rfl
  fetch _ := rfl
  count _ := rfl
  fault _ _ := rfl
  act m a ha := by
    cases a with
    | execute => exact absurd rfl ha
    | tick => exact (untimed_tick _).trans (untimed_tick m).symm
    | reset => rfl
    | place _ => rfl
    | countFrame => rfl
    | keys _ => rfl
    | consume => rfl
  timing := .inl untimed_tick

/-! ### Runs with other ticks -/

def Op.isTick : Op → Bool
  | .tick => true
  | _ => false

def withoutTicks (ops : List Op) : List Op := ops.filter fun op => !op.isTick

/- Whether an answer is a value or a refusal. -/
def Answer.tells : Answer → Bool
  | .done => false
  | _ => true

theorem perform_isTick (m : Machine) {op : Op} (h : op.isTick = true) :
    untimed (m.perform op).machine = untimed m ∧ (m.perform op).answer = .done := by
  cases op with
  | tick => exact ⟨untimed_tick m, rfl⟩
  | _ => cases h

theorem after_ticks {m : Machine} {ops : List Op} (h : ∀ op ∈ ops, op.isTick = true) :
    untimed (m.after ops) = untimed m ∧ (m.answers ops).filter Answer.tells = [] := by
  induction ops generalizing m with
  | nil => exact ⟨rfl, rfl⟩
  | cons op rest ih =>
    rw [List.forall_mem_cons] at h
    obtain ⟨hop, hdone⟩ := perform_isTick m h.1
    obtain ⟨hrest, hanswers⟩ := ih h.2 (m := (m.perform op).machine)
    refine ⟨hrest.trans hop, ?_⟩
    rw [answers, hdone]
    exact hanswers

theorem answers_append (m : Machine) (a b : List Op) :
    m.answers (a ++ b) = m.answers a ++ (m.after a).answers b := by
  induction a generalizing m with
  | nil => rfl
  | cons op rest ih =>
    rw [List.cons_append, answers, answers, ih]
    rfl

/-- Two runs of the same operations with ticks of their own. -/
theorem after_untimed {m n : Machine} {first second : List Op} (h : untimed m = untimed n)
    (same : withoutTicks first = withoutTicks second)
    (legal : Legal (fun i => ∀ x, i ≠ .readDelay x) (m.deeds first)) :
    untimed (m.after first) = untimed (n.after second) ∧
      (m.answers first).filter Answer.tells = (n.answers second).filter Answer.tells := by
  induction first generalizing m n second with
  | nil =>
    have hnone : withoutTicks second = [] := same.symm
    have hticks : ∀ op ∈ second, op.isTick = true := by
      simpa [withoutTicks] using hnone
    obtain ⟨hn, hanswers⟩ := after_ticks (m := n) hticks
    exact ⟨h.trans hn.symm, hanswers.symm⟩
  | cons op rest ih =>
    rw [deeds_cons, legal_append] at legal
    cases hop : op.isTick with
    | true =>
      obtain ⟨hm, hdone⟩ := perform_isTick m hop
      have hrest : withoutTicks rest = withoutTicks second := by
        rw [← same, withoutTicks, withoutTicks, List.filter_cons, hop]
        rfl
      obtain ⟨hafter, hanswers⟩ := ih (hm.trans h) hrest legal.2
      refine ⟨hafter, ?_⟩
      rw [answers, hdone]
      exact hanswers
    | false =>
      -- the other run comes to the same operation after some ticks
      have hcons : withoutTicks second = op :: withoutTicks rest := by
        rw [← same, withoutTicks, withoutTicks, List.filter_cons, hop]
        rfl
      obtain ⟨ticks, later, rfl, hticks, -, hlater⟩ := List.filter_eq_cons_iff.mp hcons
      have hall : ∀ op ∈ ticks, op.isTick = true := by simpa using hticks
      obtain ⟨hn, hquiet⟩ := after_ticks (m := n) hall
      obtain ⟨hmachine, hanswer⟩ := untimed_mask.perform_eq op (h.trans hn.symm) legal.1
      obtain ⟨hafter, hanswers⟩ := ih hmachine hlater.symm legal.2
      constructor
      · rw [after_append]
        exact hafter
      · rw [answers_append, List.filter_append, hquiet, List.nil_append, answers, answers, hanswer,
          List.filter_cons, List.filter_cons, hanswers]

/-- Take two machines that are the same but for their timing, and two runs that are the same but for
ticks. If the first executes no `Fx07`, which reads the delay timer, the machines are the same but
for their timing whenever they are equally far, and values and refusals are the same in both runs.
-/
theorem timing_hidden {m n : Machine} (h : SameButTiming m n) {first second : List Op}
    (same : withoutTicks first = withoutTicks second)
    (quiet : ∀ d ∈ m.deeds first, d.act = .execute →
      ∀ x, d.before.nextWord ≠ ofDigits 0xF x 0x0 0x7) :
    (∀ a b, a <+: first → b <+: second → withoutTicks a = withoutTicks b →
      SameButTiming (m.after a) (n.after b)) ∧
      (m.answers first).filter Answer.tells = (n.answers second).filter Answer.tells := by
  have hmask := (untimed_eq_iff m n).mpr h
  have legal : Legal (fun i => ∀ x, i ≠ .readDelay x) (m.deeds first) := by
    rintro d hd i ⟨hexecute, hi⟩ x rfl
    exact quiet d hd hexecute x ((Instruction.decode?_eq_digits_iff rfl rfl _).mp hi)
  constructor
  · rintro a b ⟨rest, rfl⟩ - hab
    rw [deeds_append, legal_append] at legal
    exact (untimed_eq_iff _ _).mp (after_untimed hmask hab legal.1).1
  · exact (after_untimed hmask same legal).2

/- A program that loads the delay timer, with coupled timing and without. -/
def coupledLoad : Machine := (powerOn ⟨fun _ => 0, 0⟩ true).place [0xF0, 0x15]

def decoupledLoad : Machine :=
  { coupledLoad with timers := ⟨9, 1⟩, tones := 4, coupled := false }

theorem coupledLoad_deeds :
    coupledLoad.deeds [.frame (.int 1), .tick] =
      [⟨coupledLoad, .execute⟩, ⟨coupledLoad.execute.1, .tick⟩,
        ⟨coupledLoad.execute.1.tick.1, .countFrame⟩,
        ⟨coupledLoad.execute.1.tick.1.countFrame, .tick⟩] := by
  have hc : coupledLoad.coupled = true := rfl
  have hlive : coupledLoad.halted = false := rfl
  simp only [deeds, acts, actsOf, Value.count, Value.toInt?, frameActs, stepsActs, advanceActs, hc,
    hlive, Int.reduceToNat, Bool.false_eq_true, if_true, if_false, inTurn, act,
    List.cons_append, List.nil_append, List.append_nil]

theorem coupledLoad_nextWord : coupledLoad.nextWord = 0xF015 := nextWord_place _ _ 0xF0 0x15

theorem coupledLoad_hidden :
    SameButTiming coupledLoad decoupledLoad ∧ coupledLoad.timers ≠ decoupledLoad.timers ∧
      SameButTiming (coupledLoad.after [.frame (.int 1), .tick])
        (decoupledLoad.after [.tick, .tick, .frame (.int 1)]) := by
  have h : SameButTiming coupledLoad decoupledLoad := rfl
  have quiet : ∀ d ∈ coupledLoad.deeds [.frame (.int 1), .tick], d.act = .execute →
      ∀ x, d.before.nextWord ≠ ofDigits 0xF x 0x0 0x7 := by
    rw [coupledLoad_deeds]
    intro d hd hexecute
    simp only [List.mem_cons, List.not_mem_nil, or_false] at hd
    rcases hd with rfl | rfl | rfl | rfl
    · rw [coupledLoad_nextWord]
      decide
    · cases hexecute
    · cases hexecute
    · cases hexecute
  have same : withoutTicks [.frame (.int 1), .tick] =
      withoutTicks [.tick, .tick, .frame (.int 1)] := rfl
  have hrun := timing_hidden h same quiet
  exact ⟨h, by decide, hrun.1 _ _ List.prefix_rfl List.prefix_rfl rfl⟩

end Chip8.Machine
