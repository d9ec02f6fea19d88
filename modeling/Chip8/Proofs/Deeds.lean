import Chip8.Proofs.Bounds

/-!
# Deeds

A host sees a machine between operations only, but one frame executes many instructions. Here an
operation is taken apart into acts, and a run into deeds: each act with the machine that it is done
to. Statements about single instructions of a run, or about ticks between them, speak of its deeds.
-/

namespace Chip8.Machine

open Instruction (decode?)

inductive Act where
  | reset
  | execute
  | tick
  | place (program : List UInt8)
  | countFrame
  | keys (keypad : Keypad)
  | consume

def act (m : Machine) : Act → Machine
  | .reset => m.reset
  | .execute => m.execute.1
  | .tick => m.tick.1
  | .place program => m.place program
  | .countFrame => m.countFrame
  | .keys keypad => { m with keypad := keypad }
  | .consume => m.consume.1

theorem act_reset (m : Machine) : m.act .reset = powerOn m.noise m.coupled := reset_eq m

structure Deed where
  before : Machine
  act : Act

def Deed.after (d : Deed) : Machine := d.before.act d.act

def Deed.executes (d : Deed) (i : Instruction) : Prop :=
  d.act = .execute ∧ decode? d.before.nextWord = some i

/-! ### Acts one after the other -/

def follow (m : Machine) (acts : List Act) : Machine := acts.foldl act m

def inTurn (m : Machine) : List Act → List Deed
  | [] => []
  | a :: rest => ⟨m, a⟩ :: (m.act a).inTurn rest

theorem follow_cons (m : Machine) (a : Act) (rest : List Act) :
    m.follow (a :: rest) = (m.act a).follow rest := rfl

theorem follow_append (m : Machine) (a b : List Act) :
    m.follow (a ++ b) = (m.follow a).follow b := List.foldl_append

theorem inTurn_append (m : Machine) (a b : List Act) :
    m.inTurn (a ++ b) = m.inTurn a ++ (m.follow a).inTurn b := by
  induction a generalizing m with
  | nil => rfl
  | cons x rest ih => simp only [List.cons_append, inTurn, ih, follow_cons]

theorem map_act_inTurn (m : Machine) (acts : List Act) : (m.inTurn acts).map Deed.act = acts := by
  induction acts generalizing m with
  | nil => rfl
  | cons a rest ih => rw [inTurn, List.map_cons, ih]

/-- Where a list of deeds is cut, its acts can be cut. -/
theorem inTurn_eq_append {m : Machine} {acts : List Act} {xs ys : List Deed}
    (h : m.inTurn acts = xs ++ ys) :
    ∃ a b, acts = a ++ b ∧ xs = m.inTurn a ∧ ys = (m.follow a).inTurn b := by
  induction xs generalizing m acts with
  | nil => exact ⟨[], acts, rfl, rfl, h.symm⟩
  | cons x xs ih =>
    cases acts with
    | nil => cases h
    | cons c rest =>
      rw [inTurn, List.cons_append, List.cons.injEq] at h
      obtain ⟨rfl, hrest⟩ := h
      obtain ⟨a, b, rfl, rfl, rfl⟩ := ih hrest
      exact ⟨c :: a, b, rfl, rfl, rfl⟩

theorem inTurn_eq_cons {m : Machine} {acts : List Act} {d : Deed} {ys : List Deed}
    (h : m.inTurn acts = d :: ys) :
    ∃ a rest, acts = a :: rest ∧ d = ⟨m, a⟩ ∧ ys = (m.act a).inTurn rest := by
  cases acts with
  | nil => cases h
  | cons a rest =>
    rw [inTurn, List.cons.injEq] at h
    exact ⟨a, rest, rfl, h.1.symm, h.2.symm⟩

/-! ### The acts of an operation -/

/- Every instruction is followed by a tick in coupled timing; a frame ends with one otherwise. An
operation that is refused has no acts. -/
def advanceActs (m : Machine) : List Act := if m.coupled then [.execute, .tick] else [.execute]

def stepsActs (m : Machine) : Nat → List Act
  | 0 => []
  | n + 1 => if m.halted then [] else m.advanceActs ++ m.advance.1.stepsActs n

def frameActs (m : Machine) (cycles : Int) : List Act :=
  if m.halted then []
  else m.stepsActs cycles.toNat ++ ((if m.coupled then [] else [.tick]) ++ [.countFrame])

def actsOf (m : Machine) : Op → List Act
  | .reset => [.reset]
  | .load data =>
    match data.program with
    | .ok program => [.place program]
    | .error _ => []
  | .step => if m.halted then [] else m.advanceActs
  | .frame cycles =>
    match cycles.count with
    | .ok n => m.frameActs n
    | .error _ => []
  | .tick => [.tick]
  | .setKey index pressed =>
    match m.keypad.set index pressed with
    | .ok keypad => [.keys keypad]
    | .error _ => []
  | .releaseKeys => [.keys .released]
  | .consume => [.consume]

def acts (m : Machine) : List Op → List Act
  | [] => []
  | op :: rest => m.actsOf op ++ (m.perform op).machine.acts rest

/-- All that happens to a machine in a run, in order. -/
def deeds (m : Machine) (ops : List Op) : List Deed := m.inTurn (m.acts ops)

/-! ### The acts of a run lead where the run leads -/

theorem effect_coupled {i : Instruction} {m n : Machine} (h : i.effect m = .ok n) :
    n.coupled = m.coupled := by
  cases Instruction.effect_outcome h with
  | ret a rest _ _ => rfl
  | call t _ _ => rfl
  | plain _ _ _ _ _ _ _ _ _ _ => rfl

theorem execute_coupled (m : Machine) : m.execute.1.coupled = m.coupled := by
  rcases execute_cases m with ⟨i, n, -, he, hx⟩ | ⟨kind, -, hx⟩
  · have hn : n.coupled = m.fetch.coupled := effect_coupled he
    rw [hx]
    exact hn
  · rw [hx]
    rfl

theorem tick_coupled (m : Machine) : m.tick.1.coupled = m.coupled := by
  rw [tick_eq]

theorem advance_fst (m : Machine) :
    m.advance.1 = if m.coupled then m.execute.1.tick.1 else m.execute.1 := by
  rw [advance, execute_coupled]
  split <;> rfl

theorem advance_coupled (m : Machine) : m.advance.1.coupled = m.coupled := by
  rw [advance_fst]
  split
  · rw [tick_coupled, execute_coupled]
  · exact execute_coupled m

theorem steps_coupled (m : Machine) (n : Nat) : (m.steps n).machine.coupled = m.coupled := by
  induction n generalizing m with
  | zero => rfl
  | succ n ih =>
    rw [steps]
    split
    · rfl
    · exact (ih m.advance.1).trans (advance_coupled m)

theorem follow_advanceActs (m : Machine) : m.follow m.advanceActs = m.advance.1 := by
  rw [advance_fst, advanceActs]
  split <;> rfl

theorem follow_stepsActs (m : Machine) (n : Nat) :
    m.follow (m.stepsActs n) = (m.steps n).machine := by
  induction n generalizing m with
  | zero => rfl
  | succ n ih =>
    rw [stepsActs, steps]
    split
    · rfl
    · rw [follow_append, follow_advanceActs]
      exact ih m.advance.1

/-- What a frame leaves behind once its instructions have run. -/
def closeFrame (m : Machine) : Machine := if m.coupled then m.countFrame else m.tick.1.countFrame

theorem frame_machine (m : Machine) (cycles : Int) :
    (m.frame cycles).machine =
      if m.halted then m else (m.steps cycles.toNat).machine.closeFrame := by
  rw [frame, closeFrame]
  split
  · rfl
  · dsimp only
    split <;> rfl

theorem frame_executed (m : Machine) (cycles : Int) :
    (m.frame cycles).executed = if m.halted then 0 else (m.steps cycles.toNat).executed := by
  rw [frame]
  split
  · rfl
  · dsimp only
    split <;> rfl

theorem follow_frameActs (m : Machine) (cycles : Int) :
    m.follow (m.frameActs cycles) = (m.frame cycles).machine := by
  rw [frame_machine, frameActs]
  split
  · rfl
  · rw [follow_append, follow_stepsActs, closeFrame, steps_coupled]
    split <;> rfl

theorem frameOf_of_count (m : Machine) {cycles : Value} {n : Int} (h : cycles.count = .ok n) :
    m.frameOf cycles = .ok (m.frame n) := by
  rw [frameOf, h, frame]
  split
  · rfl
  · rename_i hm
    simp only [Except.map, frame, hm, Bool.false_eq_true, if_false]

theorem follow_actsOf (m : Machine) (op : Op) :
    m.follow (m.actsOf op) = (m.perform op).machine := by
  cases op with
  | load data =>
    rw [actsOf, perform, load]
    cases data.program with
    | error e => rfl
    | ok program => rfl
  | step =>
    rw [actsOf, perform, step]
    split
    · rfl
    · exact follow_advanceActs m
  | frame cycles =>
    rw [actsOf, perform]
    cases hc : cycles.count with
    | error e =>
      rw [frameOf, hc]
      cases m.halted with
      | true => rfl
      | false => rfl
    | ok n =>
      rw [frameOf_of_count m hc]
      exact follow_frameActs m n
  | setKey index pressed =>
    rw [actsOf, perform, setKey]
    cases m.keypad.set index pressed with
    | error e => rfl
    | ok keypad => rfl
  | releaseKeys => exact (releaseKeys_eq m).symm
  | reset => rfl
  | tick => rfl
  | consume => rfl

theorem follow_acts (m : Machine) (ops : List Op) : m.follow (m.acts ops) = m.after ops := by
  induction ops generalizing m with
  | nil => rfl
  | cons op rest ih =>
    rw [acts, follow_append, follow_actsOf]
    exact ih _

theorem deeds_cons (m : Machine) (op : Op) (rest : List Op) :
    m.deeds (op :: rest) = m.inTurn (m.actsOf op) ++ (m.perform op).machine.deeds rest := by
  rw [deeds, acts, inTurn_append, follow_actsOf]
  rfl

theorem deeds_append (m : Machine) (a b : List Op) :
    m.deeds (a ++ b) = m.deeds a ++ (m.after a).deeds b := by
  induction a generalizing m with
  | nil => rfl
  | cons op rest ih =>
    rw [List.cons_append, deeds_cons, deeds_cons, ih, List.append_assoc]
    rfl

/-- What holds of a machine and its past, and is kept by every act, is kept by any number of them.
-/
theorem follow_keeps {P : List Deed → Machine → Prop}
    (keeps : ∀ past m a, P past m → P (past ++ [⟨m, a⟩]) (m.act a)) {past : List Deed}
    {m : Machine} (h : P past m) (acts : List Act) :
    P (past ++ m.inTurn acts) (m.follow acts) := by
  induction acts generalizing past m with
  | nil =>
    rw [inTurn, List.append_nil]
    exact h
  | cons a rest ih =>
    rw [inTurn, List.append_cons]
    exact ih (keeps past m a h)

theorem after_keeps {P : List Deed → Machine → Prop}
    (keeps : ∀ past m a, P past m → P (past ++ [⟨m, a⟩]) (m.act a)) {past : List Deed}
    {m : Machine} (h : P past m) (ops : List Op) : P (past ++ m.deeds ops) (m.after ops) := by
  rw [deeds, ← follow_acts]
  exact follow_keeps keeps h (m.acts ops)

/-! ### Moments of a run -/

/- The machine after a part of a run. -/
def standing (m : Machine) (past : List Deed) : Machine := m.follow (past.map Deed.act)

theorem standing_deeds (m : Machine) (ops : List Op) : m.standing (m.deeds ops) = m.after ops := by
  rw [standing, deeds, map_act_inTurn, follow_acts]

theorem standing_before {m : Machine} {ops : List Op} {past rest : List Deed} {d : Deed}
    (cut : m.deeds ops = past ++ d :: rest) : m.standing past = d.before := by
  obtain ⟨a, acts, -, rfl, hrest⟩ := inTurn_eq_append cut
  obtain ⟨b, acts, -, rfl, -⟩ := inTurn_eq_cons hrest.symm
  rw [standing, map_act_inTurn]

/-! ### Which acts belong to which operations -/

theorem advanceActs_mem {m : Machine} {a : Act} (h : a ∈ m.advanceActs) :
    a = .execute ∨ a = .tick := by
  rw [advanceActs] at h
  split at h
  · simpa using h
  · exact .inl (by simpa using h)

theorem execute_mem_advance (m : Machine) : ⟨m, .execute⟩ ∈ m.inTurn m.advanceActs := by
  rw [advanceActs]
  split <;> exact List.mem_cons_self ..

theorem stepsActs_mem {m : Machine} {n : Nat} {a : Act} (h : a ∈ m.stepsActs n) :
    a = .execute ∨ a = .tick := by
  induction n generalizing m with
  | zero => cases h
  | succ n ih =>
    rw [stepsActs] at h
    split at h
    · cases h
    · rcases List.mem_append.mp h with h | h
      · exact advanceActs_mem h
      · exact ih h

theorem frameActs_mem {m : Machine} {cycles : Int} {a : Act} (h : a ∈ m.frameActs cycles) :
    a = .execute ∨ a = .tick ∨ a = .countFrame := by
  rw [frameActs] at h
  split at h
  · cases h
  · rcases List.mem_append.mp h with h | h
    · rcases stepsActs_mem h with rfl | rfl
      · exact .inl rfl
      · exact .inr (.inl rfl)
    · split at h
      · exact .inr (.inr (by simpa using h))
      · exact .inr (by simpa using h)

/- A machine without a program, for runs on fixed inputs. -/
def unloaded : Machine := powerOn ⟨fun _ => 0, 0⟩ false

end Chip8.Machine
