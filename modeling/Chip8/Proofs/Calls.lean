import Chip8.Proofs.Deeds

/-!
# Calls and returns

A call puts its return address on the stack. As long as the stack stays higher than it was before
the call, that address and all that lies below it stay in place, whatever is called, returned from,
faults or is overwritten in the meantime; and only a return to that address takes it away.
-/

namespace Chip8.Machine

open Instruction (decode?)

/-! ### What one act does to the stack -/

theorem execute_stack (m : Machine) :
    m.execute.1.stack = m.stack ∨
    m.execute.1.stack = wrap (m.pc + 2) :: m.stack ∨
    (m.nextWord = 0x00EE ∧ m.stack = m.execute.1.pc :: m.execute.1.stack) := by
  rcases execute_cases m with ⟨i, n, hi, he, hx⟩ | ⟨kind, -, hx⟩
  · rw [hx]
    cases Instruction.effect_outcome he with
    | ret a rest hr hs =>
      have hw : m.nextWord = 0x00EE := (Instruction.decode?_eq_ret_iff _).mp (hr ▸ hi)
      exact .inr (.inr ⟨hw, hs⟩)
    | call t _ _ => exact .inr (.inl rfl)
    | plain _ _ _ _ _ _ _ _ _ _ => exact .inl rfl
  · rw [hx]
    exact .inl rfl

theorem execute_call {m : Machine} (hw : Word.family m.nextWord = 2) (hd : m.stack.length < 16) :
    m.execute.1 = { m.fetch with pc := (Word.nnn m.nextWord).val,
                                 stack := wrap (m.pc + 2) :: m.stack }.count := by
  have hi : decode? m.nextWord = some (.call (Word.nnn m.nextWord)) := by
    rw [Instruction.decode?_eq_some_iff, Instruction.encode, ← hw, Word.ofTarget_family]
  have hroom : ¬Layout.stackDepth ≤ m.fetch.stack.length := Nat.not_le_of_lt hd
  rw [execute_eq_carryOut hi]
  simp only [carryOut, Instruction.effect, if_neg hroom]
  rfl

/- What is neither a reset nor an instruction leaves the program's place, stack and registers. -/
theorem act_host (m : Machine) {a : Act} (hr : a ≠ .reset) (he : a ≠ .execute) :
    ∃ memory timers display keypad frames tones,
      m.act a = { m with memory := memory, timers := timers, display := display,
                         keypad := keypad, frames := frames, tones := tones } := by
  cases a with
  | reset => exact absurd rfl hr
  | execute => exact absurd rfl he
  | tick => exact ⟨_, _, _, _, _, _, tick_eq m⟩
  | place _ => exact ⟨_, _, _, _, _, _, rfl⟩
  | countFrame => exact ⟨_, _, _, _, _, _, rfl⟩
  | keys _ => exact ⟨_, _, _, _, _, _, rfl⟩
  | consume => exact ⟨_, _, _, _, _, _, rfl⟩

theorem act_stack (m : Machine) {a : Act} (hr : a ≠ .reset) (he : a ≠ .execute) :
    (m.act a).stack = m.stack := by
  obtain ⟨_, _, _, _, _, _, ha⟩ := act_host m hr he
  rw [ha]

/-- A saved address stays saved, unless a return goes to it. -/
theorem act_saved {m : Machine} {a : Act} {ret : Int} {saved : List Int} (hr : a ≠ .reset)
    (h : ret :: saved <:+ m.stack) :
    ret :: saved <:+ (m.act a).stack ∨
    (a = .execute ∧ m.nextWord = 0x00EE ∧ (m.act a).stack = saved ∧ (m.act a).pc = ret) := by
  by_cases he : a = .execute
  · subst he
    rcases execute_stack m with hs | hs | ⟨hw, hs⟩
    · have hs : (m.act .execute).stack = m.stack := hs
      rw [hs]
      exact .inl h
    · have hs : (m.act .execute).stack = wrap (m.pc + 2) :: m.stack := hs
      rw [hs]
      exact .inl (h.trans (List.suffix_cons _ _))
    · -- the address on top is the saved one, or it lies above it
      rw [hs] at h
      rcases List.suffix_cons_iff.mp h with htop | hbelow
      · rw [List.cons.injEq] at htop
        exact .inr ⟨rfl, hw, htop.2.symm, htop.1.symm⟩
      · exact .inl hbelow
  · rw [act_stack m hr he]
    exact .inl h

theorem inTurn_saved {m : Machine} {acts : List Act} {ret : Int} {saved : List Int}
    (hr : .reset ∉ acts) (h : ret :: saved <:+ m.stack)
    (deep : ∀ d ∈ m.inTurn acts, saved.length < d.after.stack.length) :
    (∀ d ∈ m.inTurn acts, ret :: saved <:+ d.after.stack) ∧
      ret :: saved <:+ (m.follow acts).stack := by
  induction acts generalizing m with
  | nil =>
    refine ⟨?_, h⟩
    intro d hd
    cases hd
  | cons a rest ih =>
    rw [List.mem_cons, not_or] at hr
    rw [inTurn, List.forall_mem_cons] at deep
    have hnext : ret :: saved <:+ (m.act a).stack := by
      rcases act_saved (Ne.symm hr.1) h with hs | ⟨-, -, hs, -⟩
      · exact hs
      · have hlow : saved.length < (m.act a).stack.length := deep.1
        rw [hs] at hlow
        omega
    obtain ⟨hall, hend⟩ := ih hr.2 hnext deep.2
    rw [inTurn, List.forall_mem_cons, follow_cons]
    exact ⟨⟨hnext, hall⟩, hend⟩

/-! ### Continuing a run -/

/- A run goes on by steps, frames, ticks, keys and pictures: the program is neither reset nor
replaced by the host. -/
def Op.continues : Op → Bool
  | .reset => false
  | .load _ => false
  | _ => true

def Act.continues : Act → Bool
  | .reset => false
  | .place _ => false
  | _ => true

theorem actsOf_continues {m : Machine} {op : Op} (h : op.continues = true) :
    ∀ a ∈ m.actsOf op, a.continues = true := by
  intro a ha
  cases op with
  | reset => cases h
  | load _ => cases h
  | step =>
    rw [actsOf] at ha
    split at ha
    · cases ha
    · rcases advanceActs_mem ha with rfl | rfl <;> rfl
  | frame cycles =>
    rw [actsOf] at ha
    split at ha
    · rcases frameActs_mem ha with rfl | rfl | rfl <;> rfl
    · cases ha
  | setKey index pressed =>
    rw [actsOf] at ha
    split at ha
    · rw [List.mem_singleton.mp ha]
      rfl
    · cases ha
  | tick => rw [List.mem_singleton.mp ha]; rfl
  | releaseKeys => rw [List.mem_singleton.mp ha]; rfl
  | consume => rw [List.mem_singleton.mp ha]; rfl

theorem acts_continues {m : Machine} {ops : List Op} (h : ∀ op ∈ ops, op.continues = true) :
    ∀ a ∈ m.acts ops, a.continues = true := by
  induction ops generalizing m with
  | nil => nofun
  | cons op rest ih =>
    rw [List.forall_mem_cons] at h
    rw [acts]
    intro a ha
    rcases List.mem_append.mp ha with ha | ha
    · exact actsOf_continues h.1 a ha
    · exact ih h.2 a ha

theorem act_idle (m : Machine) {a : Act} (hc : a.continues = true) (he : a ≠ .execute) :
    (m.act a).memory = m.memory ∧ (m.act a).pc = m.pc ∧ (m.act a).stack = m.stack := by
  cases a with
  | reset => cases hc
  | place _ => cases hc
  | execute => exact absurd rfl he
  | tick =>
    rw [act, tick_eq]
    exact ⟨rfl, rfl, rfl⟩
  | countFrame => exact ⟨rfl, rfl, rfl⟩
  | keys _ => exact ⟨rfl, rfl, rfl⟩
  | consume => exact ⟨rfl, rfl, rfl⟩

/-- What goes on without executing changes neither program nor stack. -/
theorem follow_idle {m : Machine} {acts : List Act} (hc : ∀ a ∈ acts, a.continues = true)
    (he : .execute ∉ acts) :
    (m.follow acts).memory = m.memory ∧ (m.follow acts).pc = m.pc ∧
      (m.follow acts).stack = m.stack := by
  induction acts generalizing m with
  | nil => exact ⟨rfl, rfl, rfl⟩
  | cons a rest ih =>
    rw [List.forall_mem_cons] at hc
    rw [List.mem_cons, not_or] at he
    obtain ⟨hmem, hpc, hst⟩ := ih hc.2 he.2 (m := m.act a)
    rw [follow_cons, hmem, hpc, hst]
    exact act_idle m hc.1 (Ne.symm he.1)

theorem follow_idle_call {m : Machine} {acts : List Act} (hc : ∀ a ∈ acts, a.continues = true)
    (he : .execute ∉ acts) (hw : Word.family m.nextWord = 2) (hd : m.stack.length < 16) :
    ((m.follow acts).act .execute).stack = (m.pc + 2) % 4096 :: m.stack := by
  obtain ⟨hmem, hpc, hst⟩ := follow_idle (m := m) hc he
  have hword : (m.follow acts).nextWord = m.nextWord := by
    rw [nextWord, hmem, hpc]
    rfl
  have hx := execute_call (m := m.follow acts) (by rw [hword, hw]) (by rw [hst]; exact hd)
  rw [act, hx, hpc, hst]
  rfl

/-! ### The discipline -/

/-- The return from the call that a machine is about to make. -/
structure Returns (m : Machine) (d : Deed) : Prop where
  execute : d.act = .execute
  word : d.before.nextWord = 0x00EE
  stack : d.after.stack = m.stack
  pc : d.after.pc = (m.pc + 2) % 4096

/-- From a machine about to make a call, let a run go on in whatever way, and let `call` be the
first instruction that it executes. From then on the address behind the call lies on the old stack
for as long as the stack is higher than the old one; and what first makes it as low again is the
return to that address, which leaves the old stack. -/
theorem call_returns {m : Machine} (hw : Word.family m.nextWord = 2) (hd : m.stack.length < 16)
    {ops : List Op} (hops : ∀ op ∈ ops, op.continues = true) {idle during rest : List Deed}
    {call : Deed} (run : m.deeds ops = idle ++ call :: (during ++ rest))
    (hidle : ∀ d ∈ idle, d.act ≠ .execute) (hcall : call.act = .execute)
    (deep : ∀ d ∈ during, m.stack.length < d.after.stack.length) :
    call.after.stack = (m.pc + 2) % 4096 :: m.stack ∧
      (∀ d ∈ during, (m.pc + 2) % 4096 :: m.stack <:+ d.after.stack) ∧
      ∀ last later, rest = last :: later → last.after.stack.length ≤ m.stack.length →
        Returns m last := by
  have hc := acts_continues (m := m) hops
  -- the acts are cut where the deeds are cut
  obtain ⟨before, acts, hacts, rfl, hafter⟩ := inTurn_eq_append run
  obtain ⟨a, acts, rfl, rfl, hrun⟩ := inTurn_eq_cons hafter.symm
  obtain ⟨inner, acts, rfl, rfl, rfl⟩ := inTurn_eq_append hrun.symm
  have hcall : a = .execute := hcall
  subst hcall
  rw [hacts] at hc
  simp only [List.forall_mem_append, List.forall_mem_cons] at hc
  obtain ⟨hbefore, -, hinner, hacts⟩ := hc
  have hexec : .execute ∉ before := by
    intro ha
    rw [← map_act_inTurn m before] at ha
    obtain ⟨d, hd, hda⟩ := List.mem_map.mp ha
    exact hidle d hd hda
  have hreset : .reset ∉ inner := by
    intro ha
    cases hinner _ ha
  have hpush := follow_idle_call hbefore hexec hw hd
  have hsaved : (m.pc + 2) % 4096 :: m.stack <:+ ((m.follow before).act .execute).stack :=
    ⟨[], hpush.symm⟩
  obtain ⟨hall, hend⟩ := inTurn_saved hreset hsaved deep
  refine ⟨hpush, hall, ?_⟩
  intro last later hrest hlow
  obtain ⟨b, acts, rfl, rfl, -⟩ := inTurn_eq_cons hrest
  have hb : b ≠ .reset := by
    rintro rfl
    cases hacts _ (List.mem_cons_self ..)
  rcases act_saved hb hend with hs | ⟨hb, hret, hs, hp⟩
  · -- the old stack with one more address on it is higher than the old stack
    exact absurd hlow (Nat.not_le_of_lt hs.length_le)
  · exact ⟨hb, hret, hs, hp⟩

/- A call of a return, in coupled timing. -/
def emptyCall : Machine :=
  (powerOn ⟨fun _ => 0, 0⟩ true).place [0x22, 0x04, 0x12, 0x02, 0x00, 0xEE]

theorem emptyCall_word :
    emptyCall.memory.word 0x200 = 0x2204 ∧ emptyCall.memory.word 0x204 = 0x00EE := by
  simp only [emptyCall, place, Memory.word, Memory.write, Layout.programStart, Memory.get_set,
    cell_eq_iff]
  decide

theorem emptyCall_execute :
    emptyCall.execute.1 = { emptyCall.fetch with pc := 0x204, stack := [0x202] }.count := by
  have hw : emptyCall.nextWord = 0x2204 := emptyCall_word.1
  rw [execute_call (by rw [hw]; rfl) (by decide), hw]
  rfl

theorem emptyCall_deeds :
    emptyCall.deeds [.frame (.int 2)] =
      [] ++ ⟨emptyCall, .execute⟩ :: ([⟨emptyCall.execute.1, .tick⟩] ++
        [⟨emptyCall.execute.1.tick.1, .execute⟩, ⟨emptyCall.execute.1.tick.1.execute.1, .tick⟩,
          ⟨emptyCall.execute.1.tick.1.execute.1.tick.1, .countFrame⟩]) := by
  have hc : emptyCall.coupled = true := rfl
  have hlive : emptyCall.halted = false := rfl
  have hnext : emptyCall.advance.1 = emptyCall.execute.1.tick.1 := by
    rw [advance_fst, hc, if_pos rfl]
  have hcnext : emptyCall.execute.1.tick.1.coupled = true := by
    rw [tick_coupled, execute_coupled, hc]
  have hlnext : emptyCall.execute.1.tick.1.halted = false := by
    rw [emptyCall_execute]
    rfl
  simp only [deeds, acts, actsOf, Value.count, Value.toInt?, frameActs, stepsActs, advanceActs, hc,
    hlive, hnext, hcnext, hlnext, Int.reduceToNat, Bool.false_eq_true, if_true, if_false, inTurn,
    act, List.cons_append, List.nil_append, List.append_nil]

/-- The second instruction of the frame is the return from the first. -/
theorem emptyCall_returns :
    Word.family emptyCall.nextWord = 2 ∧ emptyCall.stack.length < 16 ∧
      (Deed.mk emptyCall.execute.1.tick.1 .execute).after.stack.length ≤ emptyCall.stack.length ∧
      Returns emptyCall ⟨emptyCall.execute.1.tick.1, .execute⟩ := by
  have hw : Word.family emptyCall.nextWord = 2 := by
    rw [show emptyCall.nextWord = 0x2204 from emptyCall_word.1]
    rfl
  have hret : decode? emptyCall.execute.1.tick.1.nextWord = some .ret := by
    rw [Instruction.decode?_eq_ret_iff, emptyCall_execute]
    exact emptyCall_word.2
  have hlow : (Deed.mk emptyCall.execute.1.tick.1 .execute).after.stack.length ≤
      emptyCall.stack.length := by
    rw [Deed.after, act, execute_eq_carryOut hret, emptyCall_execute]
    exact Nat.le_refl 0
  obtain ⟨-, -, hlast⟩ := call_returns hw (by decide) (by decide) emptyCall_deeds (by simp) rfl (by
    rw [List.forall_mem_singleton, Deed.after, act, emptyCall_execute]
    decide)
  exact ⟨hw, by decide, hlow, hlast _ _ rfl hlow⟩

end Chip8.Machine
