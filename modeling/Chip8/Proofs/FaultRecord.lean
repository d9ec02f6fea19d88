import Mathlib.Data.List.DropRight
import Mathlib.Data.List.TakeDrop
import Chip8.Proofs.Bounds

/-!
# The record of faults

Four parts of a machine tell of the same events: the halt flag, the fault history, the signals and
the instruction count. `Ledger` says how they agree with the list of all faults since the last
reset. It is kept by every elementary change, and what the host can see follows from it.
-/

namespace Chip8

def Signal.fault? : Signal → Option Fault
  | fault f => some f
  | _ => none

def Signal.faults (signals : List Signal) : List Fault := signals.filterMap fault?

theorem Signal.faults_append (a b : List Signal) : faults (a ++ b) = faults a ++ faults b :=
  List.filterMap_append

/-- The facts of a fault that every host can check. -/
structure Fault.Consistent (f : Fault) : Prop where
  address : IsAddress f.address
  underflow : f.kind = .stackUnderflow → f.opcode = 0x00EE
  overflow : f.kind = .stackOverflow → 0x2000 ≤ f.opcode ∧ f.opcode ≤ 0x2FFF

namespace Machine

/-! ### What one change does to the record -/

theorem attempt_consistent {m : Machine} (hm : InRange m) {kind : FaultKind}
    (ha : m.fetch.attempt m.nextWord = .error kind) : (m.faultOf kind).Consistent := by
  rcases (attempt_error_iff _ _ _).mp ha with ⟨-, rfl⟩ | ⟨hw, -, rfl⟩ | ⟨hw, -, rfl⟩
  · exact ⟨hm.pc, by simp [faultOf], by simp [faultOf]⟩
  · refine ⟨hm.pc, fun _ => ?_, by simp [faultOf]⟩
    simp only [faultOf, hw]
    rfl
  · refine ⟨hm.pc, by simp [faultOf], fun _ => ?_⟩
    have hf : m.nextWord.toNat / 4096 = 2 := congrArg Fin.val hw
    simp only [faultOf]
    omega

theorem record_halted {m : Machine} (live : m.halted = false) (f : Fault) :
    (m.record f).halted = f.kind.fatal := by
  rw [record]
  simp only [live, Bool.false_or]

theorem effect_record {i : Instruction} {m n : Machine} (h : i.effect m = .ok n) :
    n.faults = m.faults ∧ n.halted = m.halted ∧ n.cycles = m.cycles := by
  cases Instruction.effect_outcome h with
  | ret a rest _ _ => exact ⟨rfl, rfl, rfl⟩
  | call t _ _ => exact ⟨rfl, rfl, rfl⟩
  | plain _ _ _ _ _ _ _ _ _ _ => exact ⟨rfl, rfl, rfl⟩

/-- Either a change leaves history and halt flag alone and reports no fault, or it is an instruction
that fails: then one fault is recorded, reported and counted. -/
theorem move_record {m n : Machine} {s : List Signal} (move : Move m s n) :
    (Signal.faults s = [] ∧ n.faults = m.faults ∧ n.halted = m.halted ∧ m.cycles ≤ n.cycles) ∨
    ∃ kind, m.halted = false ∧ m.fetch.attempt m.nextWord = .error kind ∧
      Signal.faults s = [m.faultOf kind] ∧ n.faults = remember m.faults (m.faultOf kind) ∧
      n.halted = kind.fatal ∧ n.cycles = m.cycles + 1 := by
  cases move with
  | execute live =>
    rcases execute_cases m with ⟨i, n, -, he, hx⟩ | ⟨kind, ha, hx⟩
    · obtain ⟨hf, hh, hc⟩ := effect_record he
      rw [hx]
      exact .inl ⟨rfl, hf, hh, Nat.le_succ_of_le (Nat.le_of_eq hc.symm)⟩
    · have hr : (m.fetch.record (m.faultOf kind)).count.faults =
          remember m.faults (m.faultOf kind) := by
        simp only [count, record, fetch]
      rw [hx]
      exact .inr ⟨kind, live, ha, rfl, hr, record_halted live _, rfl⟩
  | tick =>
    refine .inl ?_
    unfold tick
    split <;> exact ⟨rfl, rfl, rfl, Nat.le_refl _⟩
  | place _ => exact .inl ⟨rfl, rfl, rfl, Nat.le_refl _⟩
  | countFrame => exact .inl ⟨rfl, rfl, rfl, Nat.le_refl _⟩
  | keys _ => exact .inl ⟨rfl, rfl, rfl, Nat.le_refl _⟩
  | consume => exact .inl ⟨rfl, rfl, rfl, Nat.le_refl _⟩

/-! ### The ledger -/

/-- How a machine agrees with all faults since the last reset, however many they are. -/
structure Ledger (m : Machine) (delivered : List Fault) : Prop where
  inRange : InRange m
  history : m.faults = delivered.rtake 256
  halted : m.halted = true ↔ ∃ f, delivered.getLast? = some f ∧ f.kind.fatal = true
  earlier : ∀ f ∈ delivered.dropLast, f.kind.fatal = false
  increasing : delivered.Pairwise fun f g => f.cycle < g.cycle
  past : ∀ f ∈ delivered, f.cycle < m.cycles
  consistent : ∀ f ∈ delivered, f.Consistent

theorem powerOn_ledger (noise : Noise) (coupled : Bool) : Ledger (powerOn noise coupled) [] where
  inRange := powerOn_inRange noise coupled
  history := rfl
  halted := by
    constructor
    · intro h
      cases h
    · rintro ⟨f, hf, -⟩
      cases hf
  earlier := nofun
  increasing := .nil
  past := nofun
  consistent := nofun

theorem remember_eq_rtake (faults : List Fault) (f : Fault) :
    remember faults f = (faults ++ [f]).rtake 256 := by
  simp only [remember, Layout.faultHistory, List.rtake, List.length_append, List.length_singleton]

theorem rtake_rtake_of_le {α : Type} (l : List α) {k n : Nat} (h : k ≤ n) :
    (l.rtake n).rtake k = l.rtake k := by
  simp only [List.rtake, List.length_drop, List.drop_drop]
  congr 1
  omega

/-- The kept history of one fault more is the history of all faults. -/
theorem remember_rtake (delivered : List Fault) (f : Fault) :
    remember (delivered.rtake 256) f = (delivered ++ [f]).rtake 256 := by
  rw [remember_eq_rtake, List.rtake_concat_succ, List.rtake_concat_succ,
    rtake_rtake_of_le _ (by omega)]

/-- A live machine has seen no fatal fault. -/
theorem Ledger.live {m : Machine} {delivered : List Fault} (h : Ledger m delivered)
    (live : m.halted = false) : ∀ f ∈ delivered, f.kind.fatal = false := by
  intro f hf
  by_cases hd : delivered = []
  · rw [hd] at hf
    cases hf
  · -- only the last fault can be fatal, and that one would have halted the machine
    rw [← List.dropLast_append_getLast hd] at hf
    rcases List.mem_append.mp hf with hf | hf
    · exact h.earlier f hf
    · rw [List.mem_singleton] at hf
      by_contra hfatal
      have hh : m.halted = true :=
        h.halted.mpr ⟨f, by rw [hf, List.getLast?_eq_some_getLast hd], by simpa using hfatal⟩
      rw [live] at hh
      cases hh

theorem Ledger.quiet {m n : Machine} {delivered : List Fault} (h : Ledger m delivered)
    (hn : InRange n) (hf : n.faults = m.faults) (hh : n.halted = m.halted)
    (hc : m.cycles ≤ n.cycles) : Ledger n delivered where
  inRange := hn
  history := hf.trans h.history
  halted := by
    rw [hh]
    exact h.halted
  earlier := h.earlier
  increasing := h.increasing
  past := by
    intro f hf
    have hp := h.past f hf
    omega
  consistent := h.consistent

theorem Ledger.fault {m n : Machine} {delivered : List Fault} (h : Ledger m delivered)
    (hn : InRange n) (live : m.halted = false) {f : Fault} (hp : f.Consistent)
    (hx : f.cycle = m.cycles) (hf : n.faults = remember m.faults f)
    (hh : n.halted = f.kind.fatal) (hc : n.cycles = m.cycles + 1) :
    Ledger n (delivered ++ [f]) where
  inRange := hn
  history := by rw [hf, h.history, remember_rtake]
  halted := by
    rw [hh]
    simp only [List.getLast?_append, List.getLast?_singleton, Option.some_or, Option.some.injEq]
    constructor
    · intro hk
      exact ⟨f, rfl, hk⟩
    · rintro ⟨g, rfl, hk⟩
      exact hk
  earlier := by
    rw [List.dropLast_concat]
    exact h.live live
  increasing := by
    refine List.pairwise_append.mpr ⟨h.increasing, List.pairwise_singleton _ _, ?_⟩
    intro g hg k hk
    rw [List.mem_singleton] at hk
    rw [hk, hx]
    exact h.past g hg
  past := by
    intro g hg
    rcases List.mem_append.mp hg with hg | hg
    · have hp := h.past g hg
      omega
    · rw [List.mem_singleton] at hg
      rw [hg, hx]
      omega
  consistent := by
    intro g hg
    rcases List.mem_append.mp hg with hg | hg
    · exact h.consistent g hg
    · rw [List.mem_singleton] at hg
      rw [hg]
      exact hp

theorem ledger_carried : Carried fun m past => Ledger m (Signal.faults past) := by
  intro m n s past move h
  have hn := move_inRange move h.inRange
  rw [Signal.faults_append]
  rcases move_record move with ⟨hs, hf, hh, hc⟩ | ⟨kind, live, ha, hs, hf, hh, hc⟩
  · rw [hs, List.append_nil]
    exact h.quiet hn hf hh hc
  · rw [hs]
    exact h.fault hn live (attempt_consistent h.inRange ha) rfl hf hh hc

/-- After every run the machine agrees with the faults reported since the last reset. -/
theorem after_ledger (noise : Noise) (coupled : Bool) (ops : List Op) :
    Ledger ((powerOn noise coupled).after ops)
      (Signal.faults ((powerOn noise coupled).recent [] ops)) :=
  after_recent powerOn_ledger ledger_carried _ [] (powerOn_ledger noise coupled) ops

/-! ### What the host sees -/

/-- How the parts that a host can ask for agree with the faults that it was told of. -/
structure FaultsAgree (m : Machine) (delivered : List Fault) : Prop where
  halted : m.halted = true ↔ ∃ f, m.faults.getLast? = some f ∧ f.kind.fatal = true
  earlier : ∀ f ∈ m.faults.dropLast, f.kind.fatal = false
  history : m.faults = delivered.rtake (min 256 delivered.length)
  increasing : m.faults.Pairwise fun f g => f.cycle < g.cycle
  past : ∀ f ∈ m.faults, f.cycle < m.cycles
  consistent : ∀ f ∈ m.faults, f.Consistent

theorem getLast?_rtake_succ {α : Type} (l : List α) (n : Nat) :
    (l.rtake (n + 1)).getLast? = l.getLast? := by
  induction l using List.reverseRecOn with
  | nil => rw [List.rtake_nil]
  | append_singleton l x _ =>
    rw [List.rtake_concat_succ, List.getLast?_concat, List.getLast?_concat]

theorem rtake_min_length {α : Type} (l : List α) (n : Nat) :
    l.rtake (min n l.length) = l.rtake n := by
  simp only [List.rtake]
  congr 1
  omega

theorem Ledger.agree {m : Machine} {delivered : List Fault} (h : Ledger m delivered) :
    FaultsAgree m delivered := by
  have hsub : m.faults.Sublist delivered := by
    rw [h.history]
    exact List.drop_sublist _ _
  refine ⟨?_, ?_, ?_, h.increasing.sublist hsub, ?_, ?_⟩
  · rw [h.history, getLast?_rtake_succ]
    exact h.halted
  · rw [h.history, List.rtake, List.dropLast_drop_eq_drop_dropLast]
    intro f hf
    exact h.earlier f (List.mem_of_mem_drop hf)
  · rw [rtake_min_length]
    exact h.history
  · intro f hf
    exact h.past f (hsub.subset hf)
  · intro f hf
    exact h.consistent f (hsub.subset hf)

/-- A halted machine does nothing that a host can see, until it is reset. -/
structure Stopped (m : Machine) : Prop where
  step : m.perform .step = ⟨m, [], .ran false⟩
  frame : ∀ cycles, m.perform (.frame cycles) = ⟨m, [], .count 0⟩
  stays : ∀ op, (m.perform op).machine.halted = true ↔ op ≠ .reset

theorem halted_carried : Carried fun m _ => m.halted = true := by
  intro m n s past move h
  rcases move_record move with ⟨-, -, hh, -⟩ | ⟨kind, live, -⟩
  · rw [hh]
    exact h
  · rw [live] at h
    cases h

theorem halted_stopped {m : Machine} (h : m.halted = true) : Stopped m where
  step := by simp only [perform, Machine.step, h, if_true]
  frame := by
    intro cycles
    simp only [perform, frameOf, h, if_true]
  stays := by
    intro op
    constructor
    · rintro hm rfl
      cases hm
    · intro hop
      exact (perform_trail m op hop).carries halted_carried [] h

/-- Halt flag, history, reports and instruction count agree after every run, and a halt lasts until
the next reset. -/
theorem run_faults (noise : Noise) (coupled : Bool) (ops : List Op) :
    FaultsAgree ((powerOn noise coupled).after ops)
        (Signal.faults ((powerOn noise coupled).recent [] ops)) ∧
      (((powerOn noise coupled).after ops).halted = true →
        Stopped ((powerOn noise coupled).after ops)) :=
  ⟨(after_ledger noise coupled ops).agree, halted_stopped⟩

end Machine

end Chip8
