import Chip8.Proofs.FaultRecord
import Chip8.Proofs.InstructionSet

/-!
# An instruction that fails

`Cause` lists why the next word cannot be executed, and `Refused` says what is left behind: the word
is passed over, one fault is on record, and nothing that a program computes with has changed.
-/

namespace Chip8.Machine

/-- Why the next word cannot be executed. -/
inductive Cause (m : Machine) : FaultKind → Prop
  | unknown (hw : ¬IsOpcode m.nextWord) : Cause m .unknownOpcode
  | underflow (hw : m.nextWord = 0x00EE) (hs : m.stack = []) : Cause m .stackUnderflow
  | overflow (hw : Word.family m.nextWord = 2) (hs : m.stack.length = 16) : Cause m .stackOverflow

theorem attempt_eq_error_iff {m : Machine} (hm : InRange m) (kind : FaultKind) :
    m.fetch.attempt m.nextWord = .error kind ↔ Cause m kind := by
  have hs : m.fetch.stack = m.stack := rfl
  rw [attempt_error_iff, Instruction.decode?_eq_none_iff, hs]
  constructor
  · rintro (⟨hw, rfl⟩ | ⟨hw, hd, rfl⟩ | ⟨hw, hd, rfl⟩)
    · exact .unknown hw
    · exact .underflow hw hd
    · -- the check is for sixteen or more, and more never come about
      exact .overflow hw (Nat.le_antisymm hm.depth hd)
  · intro h
    cases h with
    | unknown hw => exact .inl ⟨hw, rfl⟩
    | underflow hw hd => exact .inr (.inl ⟨hw, hd, rfl⟩)
    | overflow hw hd => exact .inr (.inr ⟨hw, hd.ge, rfl⟩)

theorem fatal_iff (kind : FaultKind) :
    kind.fatal = true ↔ kind = .stackUnderflow ∨ kind = .stackOverflow := by
  cases kind <;> decide

/-- What a fault leaves behind: it names the word, its place and the instructions before it; it is
the only one reported; all but counts, record, halt flag and the place of the next word stays. -/
structure Refused (m : Machine) (f : Fault) : Prop where
  fault : f = ⟨f.kind, m.pc, m.nextWord.toNat, m.cycles⟩
  reported : m.execute.2 = [.fetched ⟨m.pc, m.nextWord⟩, .fault f]
  state : m.execute.1 =
    { m with pc := (m.pc + 2) % 4096, lastWord := m.nextWord, lastAddress := m.pc,
             cycles := m.cycles + 1, faults := (m.faults ++ [f]).rtake 256,
             halted := f.kind.fatal }
  halts : m.execute.1.halted = true ↔ f.kind = .stackUnderflow ∨ f.kind = .stackOverflow

theorem attempt_refused {m : Machine} (live : m.halted = false) {kind : FaultKind}
    (ha : m.fetch.attempt m.nextWord = .error kind) : Refused m (m.faultOf kind) := by
  have hx := execute_of_attempt_error ha
  have hk : (m.faultOf kind).kind = kind := rfl
  refine ⟨rfl, by rw [hx], ?_, ?_⟩
  · simp only [hx, count, record, fetch, wrap, live, Bool.false_or, remember_eq_rtake]
  · have hh : m.execute.1.halted = kind.fatal := by
      rw [hx]
      exact record_halted live _
    rw [hh, hk]
    exact fatal_iff kind

/-- A live machine reports a fault exactly for the three causes, and then it is left as `Refused`
says. -/
theorem execute_refuses {m : Machine} (hm : Reachable m) (live : m.halted = false) :
    ((∃ f, .fault f ∈ m.execute.2) ↔ ∃ kind, Cause m kind) ∧
      ∀ f, .fault f ∈ m.execute.2 → Cause m f.kind ∧ Refused m f := by
  have hr := reachable_inRange hm
  constructor
  · simp only [fault_mem_execute_iff, attempt_eq_error_iff hr]
    constructor
    · rintro ⟨f, kind, hc, -⟩
      exact ⟨kind, hc⟩
    · rintro ⟨kind, hc⟩
      exact ⟨_, kind, hc, rfl⟩
  · intro f hf
    obtain ⟨kind, ha, rfl⟩ := (fault_mem_execute_iff m f).mp hf
    exact ⟨(attempt_eq_error_iff hr kind).mp ha, attempt_refused live ha⟩

/-- The machine whose program begins with a return. -/
def loneReturn : Machine := (powerOn ⟨fun _ => 0, 0⟩ true).place [0x00, 0xEE]

theorem loneReturn_nextWord : loneReturn.nextWord = 0x00EE := nextWord_place _ _ 0x00 0xEE

/-- A return with nothing to return to. -/
theorem loneReturn_refused :
    Reachable loneReturn ∧ loneReturn.halted = false ∧
      ∃ f, .fault f ∈ loneReturn.execute.2 ∧ Cause loneReturn f.kind ∧ Refused loneReturn f := by
  have hm : Reachable loneReturn := ⟨_, _, [.load (.bytes [0x00, 0xEE])], rfl⟩
  have hall := execute_refuses hm rfl
  obtain ⟨f, hf⟩ := hall.1.mpr ⟨_, .underflow loneReturn_nextWord rfl⟩
  exact ⟨hm, rfl, f, hf, hall.2 f hf⟩

end Chip8.Machine
