import Chip8.Machine.Execute

/-!
# What an instruction can do

`effect_outcome` lists the ways in which an instruction can change a machine, `effect_error_iff` the
instructions that fail, and `execute_cases` the two ways in which a fetched word is executed. Later
modules argue from these lists and do not open `Instruction.effect` again.
-/

namespace Chip8

/-- An address that memory has a cell for. -/
def IsAddress (a : Int) : Prop := 0 ≤ a ∧ a ≤ 0xFFF

theorem wrap_isAddress (a : Int) : IsAddress (Machine.wrap a) := by
  have h0 := Machine.wrap_nonneg a
  have h1 := Machine.wrap_lt a
  exact ⟨h0, by omega⟩

theorem target_isAddress (t : Target) : IsAddress (t.val : Int) := by
  have ht := t.isLt
  exact ⟨by omega, by omega⟩

/-- Where the glyph of a byte lies, which no instruction reduces. -/
theorem glyph_isAddress (b : UInt8) : IsAddress ((b.toNat : Int) * Layout.glyphSize) := by
  have hb := b.toNat_lt
  simp only [Layout.glyphSize]
  exact ⟨by omega, by omega⟩

namespace Instruction

open Machine (wrap)

/-! ### The instructions that ask first -/

theorem effect_ret_ok {m n : Machine} (h : ret.effect m = .ok n) :
    ∃ a rest, m.stack = a :: rest ∧ n = { m with pc := a, stack := rest } := by
  simp only [effect] at h
  split at h
  · cases h
  · rename_i a rest hs
    cases h
    exact ⟨a, rest, hs, rfl⟩

theorem effect_call_ok {t : Target} {m n : Machine} (h : (call t).effect m = .ok n) :
    m.stack.length < 16 ∧ n = { m with pc := t.val, stack := m.pc :: m.stack } := by
  simp only [effect] at h
  split at h
  · cases h
  · rename_i hd
    cases h
    exact ⟨Nat.lt_of_not_le hd, rfl⟩

theorem effect_awaitKey_ok {x : Reg} {m n : Machine} (h : (awaitKey x).effect m = .ok n) :
    (m.keypad.lowest? = none ∧ n = { m with pc := wrap (m.pc - 2), waiting := true }) ∨
    ∃ key, m.keypad.lowest? = some key ∧
      n = { m with waiting := false }.setReg x (UInt8.ofNat key.val) := by
  simp only [effect] at h
  split at h
  · rename_i hk
    cases h
    exact .inl ⟨hk, rfl⟩
  · rename_i key hk
    cases h
    exact .inr ⟨key, hk, rfl⟩

/-- Only a return without a call before it and a call too deep fail. -/
theorem effect_error_iff (i : Instruction) (m : Machine) (kind : FaultKind) :
    i.effect m = .error kind ↔
      (i = ret ∧ m.stack = [] ∧ kind = .stackUnderflow) ∨
      ((∃ t, i = call t) ∧ 16 ≤ m.stack.length ∧ kind = .stackOverflow) := by
  cases i with
  | ret =>
    simp only [effect]
    split
    · rename_i hs
      simp [hs, eq_comm]
    · rename_i a rest hs
      simp [hs]
  | call t =>
    simp only [effect]
    split
    · rename_i hd
      have hd : 16 ≤ m.stack.length := hd
      simp [hd, eq_comm]
    · rename_i hd
      have hd : ¬16 ≤ m.stack.length := hd
      simp [hd]
  | awaitKey x =>
    simp only [effect]
    split <;> simp
  | _ => simp [effect]

/-! ### All outcomes -/

theorem skipIf_eq (m : Machine) (c : Bool) :
    m.skipIf c = { m with pc := if c then wrap (m.pc + 2) else m.pc } := by
  cases c <;> rfl

theorem skipped_pc (m : Machine) (c : Bool) :
    (if c then wrap (m.pc + 2) else m.pc) = m.pc ∨
      IsAddress (if c then wrap (m.pc + 2) else m.pc) := by
  cases c with
  | false => exact .inl rfl
  | true => exact .inr (wrap_isAddress _)

theorem operate_eq (m : Machine) (op : Operator) (x y : Reg) :
    m.operate op x y = { m with v := (m.operate op x y).v } := by
  unfold Machine.operate
  dsimp only
  split <;> rfl

/-- What can become of a machine by an instruction that succeeds: a return, a call, or a change that
leaves the stack and the host's side of the machine alone. -/
inductive Outcome (i : Instruction) (m : Machine) : Machine → Prop
  | ret (a : Int) (rest : List Int) (hi : i = ret) (hs : m.stack = a :: rest) :
      Outcome i m { m with pc := a, stack := rest }
  | call (t : Target) (hi : i = call t) (hd : m.stack.length < 16) :
      Outcome i m { m with pc := t.val, stack := m.pc :: m.stack }
  | plain (memory : Memory) (v : Vector UInt8 16) (index pc : Int) (timers : Timers)
      (display : Display) (noise : Noise) (waiting : Bool)
      (hx : index = m.index ∨ IsAddress index) (hp : pc = m.pc ∨ IsAddress pc) :
      Outcome i m { m with memory := memory, v := v, index := index, pc := pc, timers := timers,
                           display := display, noise := noise, waiting := waiting }

theorem outcome_skipIf (i : Instruction) (m : Machine) (c : Bool) : Outcome i m (m.skipIf c) := by
  rw [skipIf_eq]
  exact .plain _ _ _ _ _ _ _ _ (.inl rfl) (skipped_pc m c)

theorem effect_outcome {i : Instruction} {m n : Machine} (h : i.effect m = .ok n) :
    Outcome i m n := by
  cases i with
  | ret =>
    obtain ⟨a, rest, hs, rfl⟩ := effect_ret_ok h
    exact .ret a rest rfl hs
  | call t =>
    obtain ⟨hd, rfl⟩ := effect_call_ok h
    exact .call t rfl hd
  | awaitKey x =>
    rcases effect_awaitKey_ok h with ⟨-, rfl⟩ | ⟨key, -, rfl⟩
    · exact .plain _ _ _ _ _ _ _ _ (.inl rfl) (.inr (wrap_isAddress _))
    · exact .plain _ _ _ _ _ _ _ _ (.inl rfl) (.inl rfl)
  | jump t => cases h; exact .plain _ _ _ _ _ _ _ _ (.inl rfl) (.inr (target_isAddress t))
  | jumpFrom t => cases h; exact .plain _ _ _ _ _ _ _ _ (.inl rfl) (.inr (wrap_isAddress _))
  | skipIfByte x b => cases h; exact outcome_skipIf _ m _
  | skipUnlessByte x b => cases h; exact outcome_skipIf _ m _
  | skipIfEqual x y => cases h; exact outcome_skipIf _ m _
  | skipUnlessEqual x y => cases h; exact outcome_skipIf _ m _
  | skipIfKey x => cases h; exact outcome_skipIf _ m _
  | skipUnlessKey x => cases h; exact outcome_skipIf _ m _
  | operate op x y =>
    cases h
    rw [operate_eq]
    exact .plain _ _ _ _ _ _ _ _ (.inl rfl) (.inl rfl)
  | setIndex t => cases h; exact .plain _ _ _ _ _ _ _ _ (.inr (target_isAddress t)) (.inl rfl)
  | addIndex x => cases h; exact .plain _ _ _ _ _ _ _ _ (.inr (wrap_isAddress _)) (.inl rfl)
  | glyph x => cases h; exact .plain _ _ _ _ _ _ _ _ (.inr (glyph_isAddress _)) (.inl rfl)
  | save x => cases h; exact .plain _ _ _ _ _ _ _ _ (.inr (wrap_isAddress _)) (.inl rfl)
  | restore x => cases h; exact .plain _ _ _ _ _ _ _ _ (.inr (wrap_isAddress _)) (.inl rfl)
  | _ => cases h; exact .plain _ _ _ _ _ _ _ _ (.inl rfl) (.inl rfl)

/-! ### Words -/

theorem decode?_eq_ret_iff (w : Word) : decode? w = some ret ↔ w = 0x00EE := by
  rw [decode?_eq_some_iff]
  exact eq_comm

theorem decode?_eq_call_iff (w : Word) :
    (∃ t, decode? w = some (call t)) ↔ Word.family w = 2 := by
  constructor
  · rintro ⟨t, ht⟩
    rw [← encode_of_decode? ht]
    exact Word.family_ofTarget 2 t
  · intro hw
    refine ⟨Word.nnn w, ?_⟩
    rw [decode?_eq_some_iff, ← Word.ofTarget_family w, encode, hw, Word.nnn_ofTarget]

end Instruction

namespace Machine

open Instruction (decode?)

/-- The words that cannot be executed, and why. -/
theorem attempt_error_iff (m : Machine) (w : Word) (kind : FaultKind) :
    m.attempt w = .error kind ↔
      (decode? w = none ∧ kind = .unknownOpcode) ∨
      (w = 0x00EE ∧ m.stack = [] ∧ kind = .stackUnderflow) ∨
      (Word.family w = 2 ∧ 16 ≤ m.stack.length ∧ kind = .stackOverflow) := by
  rw [← Instruction.decode?_eq_ret_iff, ← Instruction.decode?_eq_call_iff]
  unfold attempt
  cases hw : decode? w with
  | none => simp [eq_comm]
  | some i =>
    have he := Instruction.effect_error_iff i m kind
    simpa using he

/-- The fault that the next word causes if it cannot be executed. -/
def faultOf (m : Machine) (kind : FaultKind) : Fault := ⟨kind, m.pc, m.nextWord.toNat, m.cycles⟩

theorem execute_of_attempt_error {m : Machine} {kind : FaultKind}
    (ha : m.fetch.attempt m.nextWord = .error kind) :
    m.execute = ((m.fetch.record (m.faultOf kind)).count,
      [.fetched ⟨m.pc, m.nextWord⟩, .fault (m.faultOf kind)]) := by
  simp only [execute, ha, faultOf]

/-- A word is executed by the effect of its instruction, or a fault is put on record instead. -/
theorem execute_cases (m : Machine) :
    (∃ i n, decode? m.nextWord = some i ∧ i.effect m.fetch = .ok n ∧
      m.execute = (n.count, [.fetched ⟨m.pc, m.nextWord⟩])) ∨
    (∃ kind, m.fetch.attempt m.nextWord = .error kind ∧
      m.execute = ((m.fetch.record (m.faultOf kind)).count,
        [.fetched ⟨m.pc, m.nextWord⟩, .fault (m.faultOf kind)])) := by
  cases ha : m.fetch.attempt m.nextWord with
  | error kind =>
    exact .inr ⟨kind, rfl, execute_of_attempt_error ha⟩
  | ok n =>
    refine .inl ?_
    have hx : m.execute = (n.count, [.fetched ⟨m.pc, m.nextWord⟩]) := by
      simp only [execute, ha]
    unfold attempt at ha
    split at ha
    · cases ha
    · rename_i i hi
      exact ⟨i, n, hi, ha, hx⟩

/-- An instruction carried out in place of the next word: its effect past the word, or the fault
that it causes on record. -/
def carryOut (m : Machine) (i : Instruction) : Machine × List Signal :=
  match i.effect m.fetch with
  | .ok n => (n.count, [.fetched ⟨m.pc, m.nextWord⟩])
  | .error kind =>
    ((m.fetch.record (m.faultOf kind)).count,
      [.fetched ⟨m.pc, m.nextWord⟩, .fault (m.faultOf kind)])

theorem execute_eq_carryOut {m : Machine} {i : Instruction} (h : decode? m.nextWord = some i) :
    m.execute = m.carryOut i := by
  have ha : m.fetch.attempt m.nextWord = i.effect m.fetch := by
    simp only [attempt, h]
  unfold carryOut
  cases he : i.effect m.fetch with
  | ok n => simp only [execute, ha, he]
  | error kind => exact execute_of_attempt_error (ha.trans he)

theorem execute_of_decode?_none {m : Machine} (h : decode? m.nextWord = none) :
    m.execute = ((m.fetch.record (m.faultOf .unknownOpcode)).count,
      [.fetched ⟨m.pc, m.nextWord⟩, .fault (m.faultOf .unknownOpcode)]) := by
  have ha : m.fetch.attempt m.nextWord = .error .unknownOpcode := by
    simp only [attempt, h]
  exact execute_of_attempt_error ha

/-- The faults that executing the next word reports. -/
theorem fault_mem_execute_iff (m : Machine) (f : Fault) :
    .fault f ∈ m.execute.2 ↔
      ∃ kind, m.fetch.attempt m.nextWord = .error kind ∧ f = m.faultOf kind := by
  rcases execute_cases m with ⟨i, n, hi, he, hx⟩ | ⟨kind, ha, hx⟩
  · have ha : m.fetch.attempt m.nextWord = .ok n := by
      simp only [attempt, hi, he]
    simp [hx, ha]
  · simp [hx, ha]

end Machine

end Chip8
