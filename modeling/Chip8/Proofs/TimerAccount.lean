import Chip8.Proofs.Deeds
import Chip8.Proofs.Footprints

/-!
# The account of the timers

A timer is what is left of its last load: the loaded value less the ticks since then. Loads and
ticks are read off the deeds of a run, and the ticks of an operation are told from the timing mode
and from what the host is answered.
-/

namespace Chip8

open Instruction (decode?_eq_digits_iff)
open Word (ofDigits)

inductive Timer where
  | delay
  | sound

def Timer.of : Timer → Timers → UInt8
  | delay, t => t.delay
  | sound, t => t.sound

/- The word that loads a timer from a register: `Fx15` or `Fx18`. -/
def Timer.loadWord : Timer → Reg → Word
  | delay, x => ofDigits 0xF x 0x1 0x5
  | sound, x => ofDigits 0xF x 0x1 0x8

theorem Timer.x_loadWord (t : Timer) (x : Reg) : Word.x (t.loadWord x) = x := by
  cases t <;> exact Word.x_ofDigits _ _ _ _

theorem Timer.of_tick (t : Timer) (s : Timers) : (t.of s.tick).toNat = (t.of s).toNat - 1 := by
  cases t with
  | delay => exact Timers.countDown_toNat s.delay
  | sound => exact Timers.countDown_toNat s.sound

namespace Machine

/-! ### What one deed does to a timer -/

/- The value that a deed loads into a timer. -/
def Deed.load? (t : Timer) (d : Deed) : Option UInt8 :=
  match d.act with
  | .execute =>
    let x := Word.x d.before.nextWord
    if d.before.nextWord = t.loadWord x then some (d.before.reg x) else none
  | _ => none

def Act.isTick : Act → Bool
  | .tick => true
  | _ => false

def Act.isReset : Act → Bool
  | .reset => true
  | _ => false

theorem execute_loadWord {t : Timer} {m : Machine} {x : Reg} (hw : m.nextWord = t.loadWord x) :
    t.of m.execute.1.timers = m.reg x := by
  cases t with
  | delay =>
    rw [execute_eq_carryOut ((decode?_eq_digits_iff (i := .setDelay x) rfl rfl _).mpr hw)]
    rfl
  | sound =>
    rw [execute_eq_carryOut ((decode?_eq_digits_iff (i := .setSound x) rfl rfl _).mpr hw)]
    rfl

theorem loadWord_of_change {t : Timer} {m : Machine}
    (h : t.of m.execute.1.timers ≠ t.of m.timers) : ∃ x, m.nextWord = t.loadWord x := by
  cases t with
  | delay => exact ((execute_confined m).delay h).word_of_delay
  | sound => exact ((execute_confined m).sound h).word_of_sound

theorem execute_timer (t : Timer) (m : Machine) :
    t.of m.execute.1.timers = (Deed.load? t ⟨m, .execute⟩).getD (t.of m.timers) := by
  simp only [Deed.load?]
  by_cases hw : m.nextWord = t.loadWord (Word.x m.nextWord)
  · rw [if_pos hw]
    exact execute_loadWord hw
  · rw [if_neg hw]
    by_cases hsame : t.of m.execute.1.timers = t.of m.timers
    · exact hsame
    · obtain ⟨x, hx⟩ := loadWord_of_change hsame
      exact absurd (by rw [hx, Timer.x_loadWord]) hw

theorem deed_timer (t : Timer) (d : Deed) :
    (t.of d.after.timers).toNat =
      if d.act.isReset then 0
      else
        match d.load? t with
        | some b => b.toNat
        | none => (t.of d.before.timers).toNat - if d.act.isTick then 1 else 0 := by
  obtain ⟨m, a⟩ := d
  cases a with
  | reset => cases t <;> rfl
  | execute =>
    have hx := execute_timer t m
    rw [Deed.after, act, hx]
    cases Deed.load? t ⟨m, .execute⟩ <;> rfl
  | tick =>
    rw [Deed.after, act, tick_eq]
    exact t.of_tick m.timers
  | place _ => rfl
  | countFrame => rfl
  | keys _ => rfl
  | consume => rfl

/-! ### The account of a run -/

/- The deeds since the last reset, the latest first. -/
def lately (deeds : List Deed) : List Deed := deeds.reverse.takeWhile fun d => !d.act.isReset

def lastLoad (t : Timer) (deeds : List Deed) : Nat :=
  (((lately deeds).findSome? (·.load? t)).map UInt8.toNat).getD 0

def ticksSince (t : Timer) (deeds : List Deed) : Nat :=
  ((lately deeds).takeWhile fun d => (d.load? t).isNone).countP (·.act.isTick)

theorem lately_concat (deeds : List Deed) (d : Deed) :
    lately (deeds ++ [d]) = if d.act.isReset then [] else d :: lately deeds := by
  rw [lately, List.reverse_append, List.reverse_singleton, List.singleton_append,
    List.takeWhile_cons]
  cases d.act.isReset <;> rfl

theorem lastLoad_concat (t : Timer) (deeds : List Deed) (d : Deed) :
    lastLoad t (deeds ++ [d]) =
      if d.act.isReset then 0
      else
        match d.load? t with
        | some b => b.toNat
        | none => lastLoad t deeds := by
  rw [lastLoad, lately_concat]
  split
  · rfl
  · rw [List.findSome?_cons]
    cases d.load? t <;> rfl

theorem ticksSince_concat (t : Timer) (deeds : List Deed) (d : Deed) :
    ticksSince t (deeds ++ [d]) =
      if d.act.isReset then 0
      else
        match d.load? t with
        | some _ => 0
        | none => ticksSince t deeds + if d.act.isTick then 1 else 0 := by
  rw [ticksSince, lately_concat]
  split
  · rfl
  · rw [List.takeWhile_cons]
    cases d.load? t with
    | some b => rfl
    | none => exact List.countP_cons

/-- The account is kept by every deed, hence by any number of them. -/
theorem inTurn_timer (t : Timer) {m : Machine} {past : List Deed} (acts : List Act)
    (h : (t.of m.timers).toNat = lastLoad t past - ticksSince t past) :
    (t.of (m.follow acts).timers).toNat =
      lastLoad t (past ++ m.inTurn acts) - ticksSince t (past ++ m.inTurn acts) := by
  induction acts generalizing m past with
  | nil =>
    rw [inTurn, List.append_nil]
    exact h
  | cons a rest ih =>
    have hd : (t.of (m.act a).timers).toNat =
        lastLoad t (past ++ [⟨m, a⟩]) - ticksSince t (past ++ [⟨m, a⟩]) := by
      have hx := deed_timer t ⟨m, a⟩
      rw [lastLoad_concat, ticksSince_concat]
      rw [Deed.after] at hx
      rw [hx]
      split
      · rfl
      · cases Deed.load? t ⟨m, a⟩ with
        | some b => rfl
        | none =>
          dsimp only
          rw [h, Nat.sub_sub]
    have hr := ih hd
    rw [List.append_assoc] at hr
    exact hr

/-! ### The ticks of an operation -/

/- Told from the timing mode and the answer: in coupled timing every instruction that was executed
counts, else a frame counts once, however many instructions it had. -/
def ticksDue (m : Machine) (op : Op) : Nat :=
  match op, (m.perform op).answer with
  | .step, .ran executed => if m.coupled && executed then 1 else 0
  | .frame _, .count executed => if m.coupled then executed else if m.halted then 0 else 1
  | .tick, _ => 1
  | _, _ => 0

theorem advanceActs_ticks (m : Machine) :
    m.advanceActs.countP Act.isTick = if m.coupled then 1 else 0 := by
  rw [advanceActs]
  cases m.coupled <;> rfl

theorem stepsActs_ticks (m : Machine) (n : Nat) :
    (m.stepsActs n).countP Act.isTick = if m.coupled then (m.steps n).executed else 0 := by
  induction n generalizing m with
  | zero => cases m.coupled <;> rfl
  | succ n ih =>
    rw [stepsActs, steps]
    split
    · cases m.coupled <;> rfl
    · rw [List.countP_append, advanceActs_ticks, ih, advance_coupled]
      cases m.coupled with
      | false => rfl
      | true => exact Nat.add_comm 1 _

theorem frameActs_ticks (m : Machine) (cycles : Int) :
    (m.frameActs cycles).countP Act.isTick =
      if m.coupled then (m.frame cycles).executed else if m.halted then 0 else 1 := by
  rw [frameActs, frame_executed]
  split
  · cases m.coupled <;> rfl
  · rw [List.countP_append, stepsActs_ticks]
    cases m.coupled <;> rfl

theorem actsOf_ticks (m : Machine) (op : Op) :
    (m.actsOf op).countP Act.isTick = m.ticksDue op := by
  cases op with
  | load data =>
    rw [actsOf]
    split <;> rfl
  | step =>
    rw [actsOf]
    simp only [ticksDue, perform, step]
    split
    · simp
    · rw [advanceActs_ticks, Bool.and_true]
  | frame cycles =>
    rw [actsOf]
    simp only [ticksDue, perform]
    cases hc : cycles.count with
    | error e =>
      rw [frameOf, hc]
      cases m.halted with
      | true => simp
      | false => rfl
    | ok n =>
      rw [frameOf_of_count m hc]
      exact frameActs_ticks m n
  | setKey index pressed =>
    rw [actsOf]
    split <;> rfl
  | _ => rfl

/-- After every run each timer is its last load since the last reset less the ticks since that load,
or zero; and the ticks of an operation are those that are due by its answer. -/
theorem run_timers (noise : Noise) (coupled : Bool) (ops : List Op) :
    (∀ t : Timer, ((t.of ((powerOn noise coupled).after ops).timers).toNat : Int) =
      max 0 ((lastLoad t ((powerOn noise coupled).deeds ops) : Int) -
        ticksSince t ((powerOn noise coupled).deeds ops))) ∧
    ∀ (m : Machine) (op : Op), (m.deeds [op]).countP (·.act.isTick) = m.ticksDue op := by
  constructor
  · intro t
    have hstart : (t.of (powerOn noise coupled).timers).toNat =
        lastLoad t [] - ticksSince t [] := by
      cases t <;> rfl
    have hrun := inTurn_timer t ((powerOn noise coupled).acts ops) hstart
    rw [follow_acts, List.nil_append] at hrun
    rw [hrun, deeds]
    omega
  · intro m op
    rw [← actsOf_ticks, ← map_act_inTurn m (m.actsOf op), List.countP_map, deeds, acts, acts,
      List.append_nil]
    rfl

end Machine

end Chip8
