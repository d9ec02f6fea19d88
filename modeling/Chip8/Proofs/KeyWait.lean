import Mathlib.Data.List.Induction
import Chip8.Proofs.Calls
import Chip8.Proofs.Footprints
import Chip8.Proofs.TimerAccount

/-!
# Waiting for a key

An instruction that asks for a key and finds none goes back to itself and raises a flag. Nothing
else touches the flag, but any instruction that is executed in between would leave it wrong. There
is none: until a key comes the next instruction is always the same one, as long as the host does not
put another program in its place.
-/

namespace Chip8

theorem Keypad.lowest?_eq_none_iff (k : Keypad) :
    k.lowest? = none ↔ ∀ key, k.isDown key = false := by
  simp [lowest?]

namespace Machine

open Instruction (decode?)
open Word (ofDigits)

/-! ### The instruction that waits -/

theorem execute_awaitKey {m : Machine} {x : Reg} (hw : m.nextWord = ofDigits 0xF x 0x0 0xA) :
    m.execute = m.carryOut (.awaitKey x) := by
  exact execute_eq_carryOut ((Instruction.decode?_eq_digits_iff rfl rfl _).mpr hw)

theorem execute_unheld {m : Machine} {x : Reg} (hw : m.nextWord = ofDigits 0xF x 0x0 0xA)
    (hk : ∀ key, m.keypad.isDown key = false) :
    m.execute.1 = { m.fetch with pc := wrap (wrap (m.pc + 2) - 2), waiting := true }.count := by
  have hnone : m.fetch.keypad.lowest? = none := m.keypad.lowest?_eq_none_iff.mpr hk
  rw [execute_awaitKey hw]
  simp only [carryOut, Instruction.effect, hnone]
  rfl

theorem execute_held {m : Machine} {x key : Reg} (hw : m.nextWord = ofDigits 0xF x 0x0 0xA)
    (hk : m.keypad.isDown key = true) : m.execute.1.waiting = false := by
  have hsome : m.fetch.keypad.lowest? ≠ none := by
    intro hnone
    have hnot := m.keypad.lowest?_eq_none_iff.mp hnone key
    rw [hk] at hnot
    cases hnot
  obtain ⟨low, hlow⟩ := Option.ne_none_iff_exists'.mp hsome
  rw [execute_awaitKey hw]
  simp only [carryOut, Instruction.effect, hlow]
  rfl

theorem execute_waiting {m : Machine} (hw : ∀ x, m.nextWord ≠ ofDigits 0xF x 0x0 0xA) :
    m.execute.1.waiting = m.waiting := by
  by_cases h : m.execute.1.waiting = m.waiting
  · exact h
  · obtain ⟨x, hx⟩ := ((execute_confined m).waiting h).word_of_waiting
    exact absurd hx (hw x)

theorem wrap_back {pc : Int} (h : IsAddress pc) : wrap (wrap (pc + 2) - 2) = pc := by
  obtain ⟨hlow, hhigh⟩ := h
  unfold wrap
  omega

/-! ### The last instruction -/

/- An `Fx0A` that finds no key held. -/
structure Deed.WaitsInVain (d : Deed) : Prop where
  execute : d.act = .execute
  word : ∃ x, d.before.nextWord = ofDigits 0xF x 0x0 0xA
  keys : ∀ key, d.before.keypad.isDown key = false

def Act.isExecute : Act → Bool
  | .execute => true
  | _ => false

/- The last instruction that has been executed since the last reset. -/
def lastExecuted (deeds : List Deed) : Option Deed := (lately deeds).find? (·.act.isExecute)

theorem lastExecuted_concat (past : List Deed) (d : Deed) :
    lastExecuted (past ++ [d]) =
      if d.act.isReset then none
      else if d.act.isExecute then some d else lastExecuted past := by
  rw [lastExecuted, lately_concat]
  split
  · rfl
  · rw [List.find?_cons]
    cases d.act.isExecute <;> rfl

theorem lastExecuted_append {between : List Deed}
    (h : ∀ d ∈ between, d.act ≠ .reset ∧ d.act ≠ .execute) (past : List Deed) :
    lastExecuted (past ++ between) = lastExecuted past := by
  induction between generalizing past with
  | nil => rw [List.append_nil]
  | cons d rest ih =>
    rw [List.forall_mem_cons] at h
    have hd : d.act.isReset = false ∧ d.act.isExecute = false := by
      obtain ⟨hr, he⟩ := h.1
      cases ha : d.act with
      | reset => exact absurd ha hr
      | execute => exact absurd ha he
      | _ => exact ⟨rfl, rfl⟩
    rw [List.append_cons, ih h.2, lastExecuted_concat, hd.1, hd.2]
    rfl

/-! ### What every deed keeps -/

theorem act_inRange {m : Machine} (h : InRange m) (a : Act) : InRange (m.act a) := by
  cases a with
  | reset =>
    rw [act_reset]
    exact powerOn_inRange _ _
  | execute => exact execute_inRange h
  | tick => exact move_inRange (.tick m) h
  | place program => exact move_inRange (.place m program) h
  | countFrame => exact move_inRange (.countFrame m) h
  | keys keypad => exact move_inRange (.keys m keypad) h
  | consume => exact move_inRange (.consume m) h

/- The flag is up exactly if the last instruction waits in vain, and then it comes next again. -/
structure Waits (past : List Deed) (m : Machine) : Prop where
  range : InRange m
  flag : m.waiting = true ↔ ∃ d, lastExecuted past = some d ∧ d.WaitsInVain
  again : ∀ d, lastExecuted past = some d → d.WaitsInVain →
    m.pc = d.before.pc ∧ m.nextWord = d.before.nextWord

theorem Waits.start {past : List Deed} (h : lastExecuted past = none) (noise : Noise)
    (coupled : Bool) : Waits past (powerOn noise coupled) where
  range := powerOn_inRange noise coupled
  flag := by
    have hdown : (powerOn noise coupled).waiting = false := rfl
    rw [h, hdown]
    simp
  again := by
    intro d hd
    rw [h] at hd
    cases hd

theorem vain_again {m : Machine} (hm : InRange m) (h : Deed.WaitsInVain ⟨m, .execute⟩) :
    m.execute.1.pc = m.pc ∧ m.execute.1.nextWord = m.nextWord := by
  obtain ⟨x, hx⟩ := h.word
  have hexec := execute_unheld hx h.keys
  rw [wrap_back hm.pc] at hexec
  rw [hexec]
  exact ⟨rfl, rfl⟩

theorem Waits.execute_flag {past : List Deed} {m : Machine} (h : Waits past m) :
    m.execute.1.waiting = true ↔ Deed.WaitsInVain ⟨m, .execute⟩ := by
  by_cases hw : ∃ x, m.nextWord = ofDigits 0xF x 0x0 0xA
  · obtain ⟨x, hx⟩ := hw
    by_cases hk : ∀ key, m.keypad.isDown key = false
    · have hup : m.execute.1.waiting = true := by
        rw [execute_unheld hx hk]
        rfl
      exact iff_of_true hup ⟨rfl, ⟨x, hx⟩, hk⟩
    · obtain ⟨key, hkey⟩ := Classical.not_forall.mp hk
      have hdown := execute_held hx ((Bool.not_eq_false _).mp hkey)
      exact iff_of_false (Bool.eq_false_iff.mp hdown) fun hvain => hk hvain.keys
  · have hkept := execute_waiting (not_exists.mp hw)
    refine iff_of_false ?_ fun hvain => hw hvain.word
    -- were the flag up, the word would be that of the instruction that waits
    intro hup
    obtain ⟨d, hd, hvain⟩ := h.flag.mp (hkept ▸ hup)
    obtain ⟨x, hx⟩ := hvain.word
    exact hw ⟨x, (h.again d hd hvain).2.trans hx⟩

theorem Waits.execute {past : List Deed} {m : Machine} (h : Waits past m) :
    Waits (past ++ [⟨m, .execute⟩]) m.execute.1 := by
  have hlast : lastExecuted (past ++ [⟨m, .execute⟩]) = some ⟨m, .execute⟩ :=
    lastExecuted_concat past ⟨m, .execute⟩
  refine ⟨execute_inRange h.range, ?_, ?_⟩
  · rw [h.execute_flag, hlast]
    constructor
    · intro hvain
      exact ⟨_, rfl, hvain⟩
    · rintro ⟨d, hd, hvain⟩
      cases hd
      exact hvain
  · intro d hd hvain
    rw [hlast] at hd
    cases hd
    exact vain_again h.range hvain

theorem act_waiting (m : Machine) {a : Act} (hr : a ≠ .reset) (he : a ≠ .execute) :
    (m.act a).waiting = m.waiting := by
  obtain ⟨_, _, _, _, _, _, ha⟩ := act_host m hr he
  rw [ha]

/- A program that is put into memory may overwrite an instruction that waits, but not before
anything has been executed. -/
theorem Waits.idle {past : List Deed} {m : Machine} (h : Waits past m) {a : Act}
    (hr : a ≠ .reset) (he : a ≠ .execute)
    (hp : a.continues = true ∨ lastExecuted past = none) :
    Waits (past ++ [⟨m, a⟩]) (m.act a) := by
  have hlast : lastExecuted (past ++ [⟨m, a⟩]) = lastExecuted past :=
    lastExecuted_append (List.forall_mem_singleton.mpr ⟨hr, he⟩) past
  refine ⟨act_inRange h.range a, ?_, ?_⟩
  · rw [hlast, act_waiting m hr he]
    exact h.flag
  · intro d hd hvain
    rw [hlast] at hd
    rcases hp with hc | hnone
    · obtain ⟨hmem, hpc, -⟩ := act_idle m hc he
      have hword : (m.act a).nextWord = m.nextWord := by
        rw [nextWord, hmem, hpc]
        rfl
      rw [hpc, hword]
      exact h.again d hd hvain
    · rw [hnone] at hd
      cases hd

/-! ### Programs that are loaded first -/

/- Every load is the first operation of the run or comes directly after a reset. -/
def LoadsFirst (ops : List Op) : Prop :=
  ∀ before data after, ops = before ++ .load data :: after →
    before = [] ∨ ∃ earlier, before = earlier ++ [.reset]

/- Nothing has happened since the last reset when a program is put into memory. -/
def PlacedFirst (deeds : List Deed) : Prop :=
  ∀ before d after program, deeds = before ++ d :: after → d.act = .place program →
    lately before = []

theorem LoadsFirst.left {a b : List Op} (h : LoadsFirst (a ++ b)) : LoadsFirst a := by
  intro before data after ha
  refine h before data (after ++ b) ?_
  rw [ha, List.append_assoc, List.cons_append]

theorem PlacedFirst.left {a b : List Deed} (h : PlacedFirst (a ++ b)) : PlacedFirst a := by
  intro before d after program ha
  refine h before d (after ++ b) program ?_
  rw [ha, List.append_assoc, List.cons_append]

theorem LoadsFirst.lately {ops : List Op} {data : ProgramData}
    (h : LoadsFirst (ops ++ [.load data])) (m : Machine) : lately (m.deeds ops) = [] := by
  rcases h ops data [] rfl with rfl | ⟨earlier, rfl⟩
  · rfl
  · have hreset (n : Machine) : n.deeds [.reset] = [⟨n, .reset⟩] := rfl
    rw [deeds_append, hreset, lately_concat]
    rfl

/- Only a load puts a program into memory, and it does nothing else. -/
theorem place_of_deeds {m : Machine} {op : Op} {before after : List Deed} {d : Deed}
    {program : List UInt8} (h : m.deeds [op] = before ++ d :: after) (hd : d.act = .place program) :
    before = [] ∧ ∃ data, op = .load data := by
  have hacts : m.actsOf op = before.map Deed.act ++ .place program :: after.map Deed.act := by
    have hmap := congrArg (List.map Deed.act) h
    rw [deeds, map_act_inTurn, acts, acts, List.append_nil] at hmap
    rw [hmap, List.map_append, List.map_cons, hd]
  have hmem : .place program ∈ m.actsOf op := by
    rw [hacts]
    exact List.mem_append_right _ List.mem_cons_self
  cases hop : op.continues with
  | true => cases actsOf_continues hop _ hmem
  | false =>
    cases op with
    | load data =>
      refine ⟨?_, data, rfl⟩
      rw [actsOf] at hacts
      split at hacts
      · cases before with
        | nil => rfl
        | cons e rest => simp at hacts
      · simp at hacts
    | reset => simp [actsOf] at hmem
    | _ => cases hop

theorem LoadsFirst.placedFirst {ops : List Op} (h : LoadsFirst ops) (m : Machine) :
    PlacedFirst (m.deeds ops) := by
  induction ops using List.reverseRecOn with
  | nil =>
    intro before d after program hd
    cases before <;> cases hd
  | append_singleton ops op ih =>
    intro before d after program hd hplace
    rw [deeds_append] at hd
    rcases List.append_eq_append_iff.mp hd with ⟨inner, rfl, hop⟩ | ⟨inner, hops, hop⟩
    · obtain ⟨rfl, data, rfl⟩ := place_of_deeds hop hplace
      rw [List.append_nil]
      exact h.lately m
    · cases inner with
      | nil =>
        have hop : (m.after ops).deeds [op] = [] ++ d :: after := hop.symm
        obtain ⟨-, data, rfl⟩ := place_of_deeds hop hplace
        rw [List.append_nil] at hops
        rw [← hops]
        exact h.lately m
      | cons e inner =>
        rw [List.cons_append, List.cons.injEq] at hop
        obtain ⟨rfl, -⟩ := hop
        exact ih h.left before d inner program hops hplace

theorem Waits.act {past : List Deed} {m : Machine} (h : PlacedFirst past → Waits past m) (a : Act)
    (hfirst : PlacedFirst (past ++ [⟨m, a⟩])) : Waits (past ++ [⟨m, a⟩]) (m.act a) := by
  have hm := h hfirst.left
  cases a with
  | reset =>
    rw [act_reset]
    exact Waits.start (lastExecuted_concat past ⟨m, .reset⟩) m.noise m.coupled
  | execute => exact hm.execute
  | place program =>
    have hlately : lately past = [] := hfirst past ⟨m, .place program⟩ [] program rfl rfl
    refine hm.idle nofun nofun (.inr ?_)
    rw [lastExecuted, hlately]
    rfl
  | tick => exact hm.idle nofun nofun (.inl rfl)
  | countFrame => exact hm.idle nofun nofun (.inl rfl)
  | keys keypad => exact hm.idle nofun nofun (.inl rfl)
  | consume => exact hm.idle nofun nofun (.inl rfl)

/-! ### What every run keeps -/

theorem waits_standing (noise : Noise) (coupled : Bool) {ops : List Op} (h : LoadsFirst ops)
    {past rest : List Deed} (cut : (powerOn noise coupled).deeds ops = past ++ rest) :
    Waits past ((powerOn noise coupled).standing past) := by
  have hfirst : PlacedFirst past := by
    have hall := h.placedFirst (powerOn noise coupled)
    rw [cut] at hall
    exact hall.left
  obtain ⟨a, acts, -, rfl, -⟩ := inTurn_eq_append cut
  have hstart : PlacedFirst [] → Waits [] (powerOn noise coupled) :=
    fun _ => Waits.start rfl noise coupled
  have hrun := follow_keeps (P := fun past m => PlacedFirst past → Waits past m)
    (fun _ _ a hm => Waits.act hm a) hstart a
  rw [standing, map_act_inTurn]
  exact hrun hfirst

/-- At every moment of a run that loads programs only at its start and after resets, the flag is up
exactly if instructions have been executed since the last reset and the last of them is an `Fx0A`
that found no key held. Then the program counter is at that instruction, its word is in place, and
unless there is a reset it is the next instruction to be executed. -/
theorem run_waiting (noise : Noise) (coupled : Bool) {ops : List Op} (hloads : LoadsFirst ops)
    {past rest : List Deed} (cut : (powerOn noise coupled).deeds ops = past ++ rest) {m : Machine}
    (now : (powerOn noise coupled).standing past = m) :
    (rest = [] → (powerOn noise coupled).after ops = m) ∧
    (m.waiting = true ↔ ∃ d, lastExecuted past = some d ∧ d.WaitsInVain) ∧
    (m.waiting = true → ∀ d, lastExecuted past = some d →
      m.pc = d.before.pc ∧ m.nextWord = d.before.nextWord ∧
      ∀ between next later, rest = between ++ next :: later →
        (∀ e ∈ between, e.act ≠ .reset ∧ e.act ≠ .execute) → next.act = .execute →
        next.before.pc = d.before.pc ∧ next.before.nextWord = d.before.nextWord) := by
  have hwaits := waits_standing noise coupled hloads cut
  rw [now] at hwaits
  refine ⟨?_, hwaits.flag, ?_⟩
  · rintro rfl
    rw [← now, ← standing_deeds, cut, List.append_nil]
  · intro hup d hd
    have hvain : d.WaitsInVain := by
      obtain ⟨e, he, hvain⟩ := hwaits.flag.mp hup
      rw [hd] at he
      cases he
      exact hvain
    obtain ⟨hpc, hword⟩ := hwaits.again d hd hvain
    refine ⟨hpc, hword, ?_⟩
    intro between next later hrest hbetween _
    rw [hrest, ← List.append_assoc] at cut
    have hlater := waits_standing noise coupled hloads cut
    rw [standing_before cut] at hlater
    exact hlater.again d ((lastExecuted_append hbetween past).trans hd) hvain

/- A program that asks for a key at once, run for a frame of two instructions. -/
def keyless : List Op := [.load (.bytes [0xF3, 0x0A]), .frame (.int 2)]

def asking : Machine := unloaded.place [0xF3, 0x0A]

theorem keyless_loadsFirst : LoadsFirst keyless := by
  intro before data after h
  match before with
  | [] => exact .inl rfl
  | [_] => cases h
  | _ :: _ :: rest => simp [keyless] at h

theorem asking_word : asking.nextWord = ofDigits 0xF 0x3 0x0 0xA := nextWord_place _ _ 0xF3 0x0A

theorem asking_waits : Deed.WaitsInVain ⟨asking, .execute⟩ :=
  ⟨rfl, ⟨0x3, asking_word⟩, isDown_powerOn ⟨fun _ => 0, 0⟩ false⟩

theorem asking_execute :
    asking.execute.1 = { asking.fetch with pc := 0x200, waiting := true }.count := by
  rw [execute_unheld asking_word asking_waits.keys]
  rfl

theorem keyless_deeds :
    unloaded.deeds keyless =
      [⟨unloaded, .place [0xF3, 0x0A]⟩, ⟨asking, .execute⟩] ++
        ⟨asking.execute.1, .execute⟩ ::
          [⟨asking.execute.1.execute.1, .tick⟩,
            ⟨asking.execute.1.execute.1.tick.1, .countFrame⟩] := by
  have hc : asking.coupled = false := rfl
  have hlive : asking.halted = false := rfl
  have hnext : asking.advance.1 = asking.execute.1 := by
    rw [advance_fst, hc, if_neg Bool.false_ne_true]
  have hcnext : asking.execute.1.coupled = false := execute_coupled asking
  have hlnext : asking.execute.1.halted = false := by
    rw [asking_execute]
    rfl
  have hframe : asking.actsOf (.frame (.int 2)) = [.execute, .execute, .tick, .countFrame] := by
    simp only [actsOf, Value.count, Value.toInt?, frameActs, stepsActs, advanceActs, hc, hlive,
      hnext, hcnext, hlnext, Int.reduceToNat, Bool.false_eq_true, if_false, List.cons_append,
      List.nil_append]
  have hload : (unloaded.perform (.load (.bytes [0xF3, 0x0A]))).machine = asking := rfl
  rw [keyless, deeds_cons, hload, deeds, acts, acts, hframe]
  rfl

/-- After the first instruction of the frame the flag is up, and the second is the same again. -/
theorem asking_again :
    LoadsFirst keyless ∧ asking.execute.1.waiting = true ∧ asking.execute.1.pc = asking.pc ∧
      asking.execute.1.nextWord = ofDigits 0xF 0x3 0x0 0xA := by
  have hlast : lastExecuted [⟨unloaded, .place [0xF3, 0x0A]⟩, ⟨asking, .execute⟩] =
      some ⟨asking, .execute⟩ := rfl
  have now : unloaded.standing [⟨unloaded, .place [0xF3, 0x0A]⟩, ⟨asking, .execute⟩] =
      asking.execute.1 := rfl
  obtain ⟨-, hflag, hagain⟩ := run_waiting _ _ keyless_loadsFirst keyless_deeds now
  have hup := hflag.mpr ⟨_, hlast, asking_waits⟩
  obtain ⟨-, -, hnext⟩ := hagain hup _ hlast
  obtain ⟨hpc, hword⟩ := hnext [] _ _ rfl (by simp) rfl
  dsimp only at hpc hword
  rw [asking_word] at hword
  exact ⟨keyless_loadsFirst, hup, hpc, hword⟩

end Machine

end Chip8
