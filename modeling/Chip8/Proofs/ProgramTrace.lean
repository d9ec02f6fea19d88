import Chip8.Proofs.Calls
import Chip8.Proofs.Reloading

/-!
# Listing and trace

The listing of a program is made from its bytes, the trace of a run from what the machine fetches.
At an address of the program whose two bytes no instruction has changed, the two show the same line.
The last byte of a program of odd length is listed with a zero behind it, and a zero is what the
machine has there.
-/

namespace Chip8

/-! ### The lines of a listing -/

/- The word at an offset of a program; beyond the end there are zeros. -/
def wordOf (data : List UInt8) (offset : Nat) : Word :=
  Word.ofBytes (data[offset]?.getD 0) (data[offset + 1]?.getD 0)

theorem listing_getElem? {data : List UInt8} {k : Nat} (hk : 2 * k < data.length) (origin : Int) :
    (listing data origin)[k]? = some ⟨origin + 2 * k, wordOf data (2 * k)⟩ := by
  fun_induction listing data origin generalizing k with
  | case1 => cases hk
  | case2 high origin =>
    have hzero : k = 0 := by
      rw [List.length_singleton] at hk
      omega
    subst hzero
    simp [wordOf]
  | case3 high low rest origin ih =>
    cases k with
    | zero => simp [wordOf]
    | succ k =>
      have hrest : 2 * k < rest.length := by
        simp only [List.length_cons] at hk
        omega
      have hstart : origin + 2 + 2 * (k : Int) = origin + 2 * ((k + 1 : Nat) : Int) := by omega
      rw [List.getElem?_cons_succ, ih hrest, hstart]
      rfl

namespace Machine

/-! ### The words of a loaded program -/

theorem place_get (noise : Noise) (coupled : Bool) {data : List UInt8}
    (hsize : data.length ≤ 3584) {j : Nat} (hj : j < 3584) :
    ((powerOn noise coupled).place data).memory.get (0x200 + j) = data[j]?.getD 0 := by
  have hdata : data.length ≤ 4096 := by omega
  have hfont : Layout.font.length ≤ 4096 := by decide
  have hoffset : (((0x200 + j : Int) - Layout.programStart) % 4096).toNat = j := by
    simp only [Layout.programStart]
    omega
  -- the font ends far below the program
  have hclear : Layout.font.length ≤ (((0x200 + j : Int) - Layout.fontStart) % 4096).toNat := by
    simp only [Layout.font_length, Layout.glyphSize, Layout.fontStart]
    omega
  have hzero : (powerOn noise coupled).memory.get (0x200 + j) = 0 := by
    rw [powerOn_eq, Memory.reset_eq, Memory.get_write _ _ _ hfont, List.getElem?_eq_none hclear]
    exact Memory.get_blank _
  rw [place, Memory.get_write _ _ _ hdata, hoffset, hzero]

theorem place_word (noise : Noise) (coupled : Bool) {data : List UInt8}
    (hsize : data.length ≤ 3584) {k : Nat} (hk : 2 * k < data.length) :
    ((powerOn noise coupled).place data).memory.word (0x200 + 2 * k) =
      wordOf data (2 * k) := by
  have hhigh := place_get noise coupled hsize (j := 2 * k) (by omega)
  have hlow := place_get noise coupled hsize (j := 2 * k + 1) (by omega)
  have hfirst : (0x200 + 2 * k : Int) = 0x200 + (2 * k : Nat) := by omega
  have hnext : (0x200 + (2 * k : Nat) + 1 : Int) = 0x200 + (2 * k + 1 : Nat) := by omega
  rw [Memory.word, hfirst, hnext, hhigh, hlow]
  rfl

/-! ### What a run reports -/

def Deed.signals (d : Deed) : List Signal :=
  match d.act with
  | .execute => d.before.execute.2
  | .tick => d.before.tick.2
  | .place program => [.loaded program.length]
  | _ => []

def reports (deeds : List Deed) : List Signal := deeds.flatMap Deed.signals

theorem reports_append (a b : List Deed) : reports (a ++ b) = reports a ++ reports b :=
  List.flatMap_append

theorem advance_signals (m : Machine) : m.advance.2 = reports (m.inTurn m.advanceActs) := by
  rw [advance, advanceActs, execute_coupled]
  cases m.coupled with
  | true => exact (congrArg (m.execute.2 ++ ·) (List.append_nil _)).symm
  | false => exact (List.append_nil _).symm

theorem steps_signals (m : Machine) (n : Nat) :
    (m.steps n).signals = reports (m.inTurn (m.stepsActs n)) := by
  induction n generalizing m with
  | zero => rfl
  | succ n ih =>
    rw [steps, stepsActs]
    split
    · rfl
    · have ha := advance_signals m
      rw [inTurn_append, reports_append, follow_advanceActs, ← ih, ← ha]

theorem frame_signals (m : Machine) (cycles : Int) :
    (m.frame cycles).signals = reports (m.inTurn (m.frameActs cycles)) := by
  have hs := steps_signals m cycles.toNat
  rw [frame, frameActs]
  split
  · rfl
  · rw [inTurn_append, reports_append, follow_stepsActs, ← hs]
    dsimp only
    rw [steps_coupled]
    cases m.coupled with
    | true => exact (List.append_nil _).symm
    | false => exact congrArg ((m.steps cycles.toNat).signals ++ ·) (List.append_nil _).symm

theorem perform_signals (m : Machine) (op : Op) :
    (m.perform op).signals = reports (m.inTurn (m.actsOf op)) := by
  cases op with
  | load data =>
    rw [perform, load, actsOf]
    cases data.program with
    | error e => rfl
    | ok program => rfl
  | step =>
    rw [perform, step, actsOf]
    split
    · rfl
    · exact advance_signals m
  | frame cycles =>
    rw [perform, actsOf]
    cases hc : cycles.count with
    | error e =>
      rw [frameOf, hc]
      cases m.halted with
      | true => rfl
      | false => rfl
    | ok n =>
      rw [frameOf_of_count m hc]
      exact frame_signals m n
  | tick => exact (List.append_nil _).symm
  | setKey index pressed =>
    rw [perform, setKey, actsOf]
    cases m.keypad.set index pressed with
    | error e => rfl
    | ok keypad => rfl
  | reset => rfl
  | releaseKeys => rfl
  | consume => rfl

/-- The signals of a run are those of its deeds. -/
theorem signalsOf_eq_reports (m : Machine) (ops : List Op) :
    m.signalsOf ops = reports (m.deeds ops) := by
  induction ops generalizing m with
  | nil => rfl
  | cons op rest ih =>
    rw [signalsOf, deeds_cons, reports_append, perform_signals, ih]

/-! ### The trace -/

/- The records of single instructions; all others have a higher level. -/
def traced (signals : List Signal) : List Record :=
  (Signal.records signals).filter (·.level = .debug)

theorem traced_append (a b : List Signal) : traced (a ++ b) = traced a ++ traced b := by
  simp only [traced, Signal.records, List.filterMap_append, List.filter_append]

theorem traced_execute (m : Machine) :
    traced m.execute.2 = [⟨.debug, .processor, (Line.mk m.pc m.nextWord).render⟩] := by
  rcases execute_cases m with ⟨i, n, -, -, hx⟩ | ⟨kind, -, hx⟩
  · rw [hx]
    rfl
  · rw [hx]
    cases kind <;> rfl

/-! ### Bytes that stay -/

/- No instruction among the deeds changed the byte at an address. -/
def Unchanged (deeds : List Deed) (p : Int) : Prop :=
  ∀ d ∈ deeds, d.act = .execute → d.after.memory.get p = d.before.memory.get p

theorem follow_get {m : Machine} {acts : List Act} {p : Int}
    (hc : ∀ a ∈ acts, a.continues = true) (hu : Unchanged (m.inTurn acts) p) :
    (m.follow acts).memory.get p = m.memory.get p := by
  induction acts generalizing m with
  | nil => rfl
  | cons a rest ih =>
    rw [List.forall_mem_cons] at hc
    rw [Unchanged, inTurn, List.forall_mem_cons] at hu
    have hact : (m.act a).memory.get p = m.memory.get p := by
      by_cases he : a = .execute
      · exact hu.1 he
      · rw [(act_idle m hc.1 he).1]
    rw [follow_cons, ih hc.2 hu.2, hact]

/- The word that a deed executes is still the one from the start of the run. -/
theorem deed_nextWord {m : Machine} {ops : List Op} (hops : ∀ op ∈ ops, op.continues = true)
    {past rest : List Deed} {d : Deed} (run : m.deeds ops = past ++ d :: rest) {p : Int}
    (hpc : d.before.pc = p) (hhigh : Unchanged past p) (hlow : Unchanged past (p + 1)) :
    d.before.nextWord = m.memory.word p := by
  have hc := acts_continues (m := m) hops
  obtain ⟨before, acts, hacts, rfl, hafter⟩ := inTurn_eq_append run
  obtain ⟨a, acts, rfl, rfl, -⟩ := inTurn_eq_cons hafter.symm
  rw [hacts, List.forall_mem_append] at hc
  have hpc : (m.follow before).pc = p := hpc
  have hget := follow_get hc.1 hhigh
  have hnext := follow_get hc.1 hlow
  rw [nextWord, hpc, Memory.word, hget, hnext]
  rfl

/- An instruction at the address of line `k` of a program, with both bytes of the line still as they
were loaded. -/
structure AtLine (k : Nat) (past : List Deed) (d : Deed) : Prop where
  execute : d.act = .execute
  pc : d.before.pc = 0x200 + 2 * k
  high : Unchanged past (0x200 + 2 * k)
  low : Unchanged past (0x200 + 2 * k + 1)

end Machine

namespace Cartridge

open Machine (powerOn AtLine traced reports)

theorem programLines_getElem? {data : List UInt8} {k : Nat} (hk : 2 * k < data.length) :
    (programLines data)[k]? = some (Line.mk (0x200 + 2 * k) (wordOf data (2 * k))).render := by
  rw [programLines, List.getElem?_map, listing_getElem? hk]
  rfl

/-- A cartridge that can be read can be listed and started. Let the machine run on in whatever way.
If an instruction is at line `k`, its record in the trace is the line `k` of the listing. -/
theorem listing_predicts {disk : Disk} {path : Text} {data : List UInt8}
    (hread : (read disk path).value = .ok data) (noise : Noise) (coupled : Bool) :
    ∃ m lines, (boot disk path noise coupled).value = .ok m ∧
      (disassembly disk path).value = .ok lines ∧
      ∀ ops : List Machine.Op, (∀ op ∈ ops, op.continues = true) →
        ∀ past d rest, m.deeds ops = past ++ d :: rest →
          ∀ k, 2 * k < data.length → AtLine k past d →
            ∃ line, lines[k]? = some line ∧
              traced d.before.execute.2 = [⟨.debug, .processor, line⟩] ∧
              traced (m.signalsOf ops) =
                traced (reports past) ++ ⟨.debug, .processor, line⟩ :: traced (reports rest) := by
  have hbytes : bytes disk path = .ok data := by
    rw [← read_value]
    exact hread
  have hsize : data.length ≤ 3584 := validate_bound (validate_of_bytes hbytes)
  refine ⟨(powerOn noise coupled).place data, programLines data, ?_, ?_, ?_⟩
  · rw [boot_value, hbytes]
    rfl
  · have hlist : (disassembly disk path).value = (read disk path).value.map programLines := rfl
    rw [hlist, hread]
    rfl
  · intro ops hops past d rest hrun k hk hat
    have hword := Machine.deed_nextWord hops hrun hat.pc hat.high hat.low
    have htrace := Machine.traced_execute d.before
    rw [Machine.place_word noise coupled hsize hk] at hword
    rw [hat.pc, hword] at htrace
    refine ⟨_, programLines_getElem? hk, htrace, ?_⟩
    have hsignals : d.signals = d.before.execute.2 := by
      rw [Machine.Deed.signals, hat.execute]
    have hhere : reports (d :: rest) = d.before.execute.2 ++ reports rest := by
      rw [← hsignals]
      rfl
    rw [Machine.signalsOf_eq_reports, hrun, Machine.reports_append, hhere, Machine.traced_append,
      Machine.traced_append, htrace]
    rfl

/- Three bytes: `LD V0, 0x05`, and the first half of a word. -/
def oddProgram : List UInt8 := [0x60, 0x05, 0xA0]

def oddDisk : Disk := { entries := [([[97]], .file oddProgram)] }

def oddMachine : Machine := (powerOn ⟨fun _ => 0, 0⟩ false).place oddProgram

theorem odd_read : (read oddDisk ⟨[97]⟩).value = .ok oddProgram := by rfl

theorem oddMachine_execute :
    oddMachine.execute.1 = (oddMachine.fetch.setReg 0 0x05).count := by
  have hword : oddMachine.memory.word (0x200 + 2 * (0 : Nat)) = wordOf oddProgram (2 * 0) :=
    Machine.place_word _ _ (by decide) (by decide)
  have hnext : oddMachine.nextWord = 0x6005 := hword
  have hload : Instruction.decode? oddMachine.nextWord = some (.loadByte 0 0x05) := by
    rw [hnext]
    decide
  rw [Machine.execute_eq_carryOut hload]
  rfl

def oddOps : List Machine.Op := [.step, .releaseKeys, .step]

def oddPast : List Machine.Deed :=
  [⟨oddMachine, .execute⟩, ⟨oddMachine.execute.1, .keys .released⟩]

theorem oddMachine_deeds :
    oddMachine.deeds oddOps = oddPast ++ [⟨oddMachine.execute.1.releaseKeys, .execute⟩] := by
  have hc : oddMachine.coupled = false := rfl
  have hlive : oddMachine.halted = false := rfl
  have hnext : oddMachine.step.1 = oddMachine.execute.1 := by
    simp only [Machine.step, hlive, Machine.advance_fst, hc, Bool.false_eq_true, if_false]
  have hcnext : oddMachine.execute.1.coupled = false := Machine.execute_coupled oddMachine
  have hlnext : oddMachine.execute.1.halted = false := by
    rw [oddMachine_execute]
    rfl
  simp only [oddOps, oddPast, Machine.deeds, Machine.acts, Machine.actsOf, Machine.perform, hnext,
    hlive, hlnext, hc, hcnext, Machine.advanceActs, Bool.false_eq_true, if_false, Machine.inTurn,
    Machine.act, Machine.releaseKeys_eq, List.cons_append, List.nil_append, List.append_nil]

theorem oddPast_unchanged (p : Int) : Machine.Unchanged oddPast p := by
  intro d hd he
  simp only [oddPast, List.mem_cons, List.not_mem_nil, or_false] at hd
  rcases hd with rfl | rfl
  · rw [Machine.Deed.after, Machine.act, oddMachine_execute]
    rfl
  · cases he

/-- The last line of a program of three bytes, listed and traced. -/
theorem oddListing_predicted :
    (read oddDisk ⟨[97]⟩).value = .ok oddProgram ∧
      ∃ m lines, (boot oddDisk ⟨[97]⟩ ⟨fun _ => 0, 0⟩ false).value = .ok m ∧
        (disassembly oddDisk ⟨[97]⟩).value = .ok lines ∧
        lines[1]? = some "$202  A000  LD I, 0x000" ∧
        (traced (m.signalsOf oddOps)).getLast? =
          some ⟨.debug, .processor, "$202  A000  LD I, 0x000"⟩ := by
  obtain ⟨m, lines, hboot, hlines, hruns⟩ := listing_predicts odd_read ⟨fun _ => 0, 0⟩ false
  have hm : m = oddMachine := by
    rw [boot_value] at hboot
    exact (Except.ok.inj hboot).symm
  have hl : lines[1]? = some "$202  A000  LD I, 0x000" := by
    have hprinted : (programLines oddProgram)[1]? = some "$202  A000  LD I, 0x000" := by
      decide +kernel
    rw [← hprinted]
    exact congrArg (·[1]?) (Except.ok.inj hlines).symm
  subst hm
  have hat : AtLine 1 oddPast ⟨oddMachine.execute.1.releaseKeys, .execute⟩ := by
    refine ⟨rfl, ?_, oddPast_unchanged _, oddPast_unchanged _⟩
    rw [oddMachine_execute]
    rfl
  obtain ⟨line, hline, -, htrace⟩ :=
    hruns oddOps (by decide) _ _ _ oddMachine_deeds 1 (by decide) hat
  rw [hl] at hline
  cases hline
  refine ⟨odd_read, _, lines, hboot, hlines, hl, ?_⟩
  rw [htrace]
  exact List.getLast?_concat

end Cartridge

end Chip8
