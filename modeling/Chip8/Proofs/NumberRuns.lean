import Chip8.Proofs.Accesses
import Chip8.Proofs.Deeds

/-!
# Runs in plain numbers

Every word finds a handler in the tables, and what the handler does to the numbers of a machine is
what the word does to the machine. From there on one run follows the other, instruction by
instruction, tick by tick and operation by operation, so a run in plain numbers gives a result and
stays in its bounds.
-/

namespace Chip8

namespace Machine

variable (m : Machine)

/-! ### Decoding -/

def settleWord : Machine :=
  match Instruction.decode? m.lastWord with
  | some i => m.settle i
  | none => m.record ⟨.unknownOpcode, m.lastAddress, m.lastWord.toNat, m.cycles⟩

def Handles (handler : Numbers.Handler) : Prop := handler m.numbers = .ok m.settleWord.numbers

variable {m}

theorem Computes.handles {handler : Numbers.Handler} {i : Instruction} (hc : m.Computes handler i)
    (hd : Instruction.decode? m.lastWord = some i) : m.Handles handler := by
  rw [Handles, settleWord, hd]
  exact hc

theorem undefined_handles (hd : Instruction.decode? m.lastWord = none) :
    m.Handles Numbers.undefined := by
  rw [Handles, settleWord, hd]
  exact congrArg Except.ok (m.numbers_report .unknownOpcode)

theorem onlyZero_handles {handler : Numbers.Handler} {i : Instruction} (hc : m.Computes handler i)
    (hd : Instruction.decode? m.lastWord = if (Word.n m.lastWord).val = 0 then some i else none) :
    m.Handles (Numbers.onlyZero handler) := by
  by_cases hzero : (Word.n m.lastWord).val = 0
  · rw [if_pos hzero] at hd
    rw [Handles, Numbers.onlyZero, if_pos (by rw [numbers_n, hzero]; rfl)]
    exact hc.handles hd
  · rw [if_neg hzero] at hd
    rw [Handles, Numbers.onlyZero, if_neg (by rw [numbers_n]; omega)]
    exact undefined_handles hd

section Look

variable {table : List (Int × Numbers.Handler)} {selector : Numbers → Int}

theorem look_handles {handler : Numbers.Handler} {i : Instruction} {k : Int}
    (hk : selector m.numbers = k) (hl : table.lookup k = some handler) (hc : m.Computes handler i)
    (hd : Instruction.decode? m.lastWord = some i) : m.Handles (Numbers.look table selector) := by
  rw [Handles, Numbers.look, hk, hl, Option.getD_some]
  exact hc.handles hd

theorem look_undefined {k : Int} (hk : selector m.numbers = k)
    (hl : k ∉ table.map Prod.fst) (hd : Instruction.decode? m.lastWord = none) :
    m.Handles (Numbers.look table selector) := by
  have hnone : table.lookup k = none := by
    rw [List.lookup_eq_none_iff]
    intro entry hentry
    have hne : k ≠ entry.1 := fun h => hl (h ▸ List.mem_map_of_mem hentry)
    simpa using hne
  rw [Handles, Numbers.look, hk, hnone, Option.getD_none]
  exact undefined_handles hd

end Look

theorem low_handles (hw : (Word.family m.lastWord).val = 0x0) :
    m.Handles (Numbers.look Numbers.lowTable Numbers.nnn) := by
  have hnnn := m.numbers_nnn
  by_cases hclear : (Word.nnn m.lastWord).val = 0x0E0
  · refine look_handles (hnnn.trans (congrArg _ hclear)) rfl m.computes_clear ?_
    simp only [Instruction.decode?, hw, hclear]
  · by_cases hret : (Word.nnn m.lastWord).val = 0x0EE
    · refine look_handles (hnnn.trans (congrArg _ hret)) rfl m.computes_ret ?_
      simp only [Instruction.decode?, hw, hret]
    · refine look_undefined hnnn ?_ ?_
      · simp only [Numbers.lowTable, List.map_cons, List.map_nil, List.mem_cons, List.not_mem_nil,
          or_false]
        omega
      · simp only [Instruction.decode?, hw]

theorem operator_handles (hw : (Word.family m.lastWord).val = 0x8) :
    m.Handles (Numbers.look Numbers.operatorTable Numbers.n) := by
  have hd : Instruction.decode? m.lastWord = (Operator.ofCode? (Word.n m.lastWord)).map fun op =>
      .operate op (Word.x m.lastWord) (Word.y m.lastWord) := by
    simp only [Instruction.decode?, hw]
  cases hop : Operator.ofCode? (Word.n m.lastWord) with
  | some op =>
    rw [hop] at hd
    have hn := m.numbers_n
    rw [(Operator.ofCode?_eq_some_iff _ op).mp hop] at hn
    obtain ⟨handler, hl, hc⟩ := computes_operator (m := m) op
    exact look_handles hn hl hc hd
  | none =>
    rw [hop] at hd
    have hmiss : ∀ d : Fin 16, Operator.ofCode? d = none →
        (d.val : Int) ∉ Numbers.operatorTable.map Prod.fst := by decide
    exact look_undefined m.numbers_n (hmiss _ hop) hd

theorem key_handles (hw : (Word.family m.lastWord).val = 0xE) :
    m.Handles (Numbers.look Numbers.keyTable Numbers.nn) := by
  have hd : Instruction.decode? m.lastWord =
      Instruction.ofKeyByte? (Word.x m.lastWord) (Word.nn m.lastWord).toNat := by
    simp only [Instruction.decode?, hw]
  have hnn := m.numbers_nn
  unfold Instruction.ofKeyByte? at hd
  split at hd
  · rename_i hk
    exact look_handles (hnn.trans (congrArg _ hk)) rfl m.computes_skipIfKey hd
  · rename_i hk
    exact look_handles (hnn.trans (congrArg _ hk)) rfl m.computes_skipUnlessKey hd
  · refine look_undefined hnn ?_ hd
    simp only [imp_false] at *
    simp only [Numbers.keyTable, List.map_cons, List.map_nil, List.mem_cons, List.not_mem_nil,
      or_false]
    omega

theorem device_handles (hw : (Word.family m.lastWord).val = 0xF) :
    m.Handles (Numbers.look Numbers.deviceTable Numbers.nn) := by
  have hd : Instruction.decode? m.lastWord =
      Instruction.ofDeviceByte? (Word.x m.lastWord) (Word.nn m.lastWord).toNat := by
    simp only [Instruction.decode?, hw]
  have hnn := m.numbers_nn
  have selects {k : Nat} (hk : (Word.nn m.lastWord).toNat = k) : m.numbers.nn = (k : Int) :=
    hnn.trans (congrArg _ hk)
  unfold Instruction.ofDeviceByte? at hd
  split at hd
  case h_1 hk => exact look_handles (selects hk) rfl m.computes_readDelay hd
  case h_2 hk => exact look_handles (selects hk) rfl m.computes_awaitKey hd
  case h_3 hk => exact look_handles (selects hk) rfl m.computes_setDelay hd
  case h_4 hk => exact look_handles (selects hk) rfl m.computes_setSound hd
  case h_5 hk => exact look_handles (selects hk) rfl m.computes_addIndex hd
  case h_6 hk => exact look_handles (selects hk) rfl m.computes_glyph hd
  case h_7 hk => exact look_handles (selects hk) rfl m.computes_digits hd
  case h_8 hk => exact look_handles (selects hk) rfl m.computes_save hd
  case h_9 hk => exact look_handles (selects hk) rfl m.computes_restore hd
  case h_10 =>
    refine look_undefined hnn ?_ hd
    simp only [imp_false] at *
    simp only [Numbers.deviceTable, List.map_cons, List.map_nil, List.mem_cons, List.not_mem_nil,
      or_false]
    omega

theorem handlers_get {k : Nat} {handler : Numbers.Handler}
    (hk : (Word.family m.lastWord).val = k) (hh : Numbers.handlers[k]? = some handler) :
    Row.get Numbers.handlers (m.numbers.opcode / 4096) = .ok handler := by
  obtain ⟨hlt, hget⟩ := List.getElem?_eq_some_iff.mp hh
  have hdigit : m.numbers.opcode / 4096 = (k : Int) := by
    rw [← hk]
    simp only [numbers, Word.family]
    omega
  rw [hdigit, Row.get, Row.ofPosition?_natCast hlt]
  exact congrArg Except.ok hget

variable (m)

/- Every word finds a handler, and the handler does what the word says. -/
theorem exists_handler : ∃ handler,
    Row.get Numbers.handlers (m.numbers.opcode / 4096) = .ok handler ∧ m.Handles handler := by
  have hlt := (Word.family m.lastWord).isLt
  have hd := Instruction.decode?.eq_def m.lastWord
  split at hd
  case h_1 hw => exact ⟨_, handlers_get hw rfl, low_handles hw⟩
  case h_2 hw => exact ⟨_, handlers_get hw rfl, m.computes_jump.handles hd⟩
  case h_3 hw => exact ⟨_, handlers_get hw rfl, m.computes_call.handles hd⟩
  case h_4 hw => exact ⟨_, handlers_get hw rfl, m.computes_skipIfByte.handles hd⟩
  case h_5 hw => exact ⟨_, handlers_get hw rfl, m.computes_skipUnlessByte.handles hd⟩
  case h_6 hw => exact ⟨_, handlers_get hw rfl, onlyZero_handles m.computes_skipIfEqual hd⟩
  case h_7 hw => exact ⟨_, handlers_get hw rfl, m.computes_loadByte.handles hd⟩
  case h_8 hw => exact ⟨_, handlers_get hw rfl, m.computes_addByte.handles hd⟩
  case h_9 hw => exact ⟨_, handlers_get hw rfl, operator_handles hw⟩
  case h_10 hw => exact ⟨_, handlers_get hw rfl, onlyZero_handles m.computes_skipUnlessEqual hd⟩
  case h_11 hw => exact ⟨_, handlers_get hw rfl, m.computes_setIndex.handles hd⟩
  case h_12 hw => exact ⟨_, handlers_get hw rfl, m.computes_jumpFrom.handles hd⟩
  case h_13 hw => exact ⟨_, handlers_get hw rfl, m.computes_random.handles hd⟩
  case h_14 hw => exact ⟨_, handlers_get hw rfl, m.computes_draw.handles hd⟩
  case h_15 hw => exact ⟨_, handlers_get hw rfl, key_handles hw⟩
  case h_16 hw => exact ⟨_, handlers_get hw rfl, device_handles hw⟩
  case h_17 =>
    simp only [imp_false] at *
    omega

/-! ### Running -/

theorem numbers_fetch : m.numbers.fetch = .ok m.fetch.numbers := by
  have hlow := (m.memory.get (m.pc + 1)).toNat_lt
  have hpc : m.numbers.pc = m.pc := rfl
  have hword : Int.lor ((m.memory.get m.pc).toNat * 256) (m.memory.get (m.pc + 1)).toNat =
      (m.nextWord.toNat : Int) := by
    have hor := Nat.shiftLeft_add_eq_or_of_lt (i := 8) hlow (m.memory.get m.pc).toNat
    rw [Nat.shiftLeft_eq] at hor
    rw [nextWord, Memory.word, Word.ofBytes_toNat, Nat.mul_comm 256]
    exact congrArg Int.ofNat hor.symm
  rw [Numbers.fetch, hpc, numbers_cell, AccessError.ok_bind, numbers_cell, AccessError.ok_bind,
    hword]
  rfl

theorem execute_fst : m.execute.1 = m.fetch.settleWord.count := by
  have hword : m.fetch.lastWord = m.nextWord := rfl
  cases hd : Instruction.decode? m.nextWord with
  | none =>
    simp only [execute, attempt, settleWord, hword, hd]
    rfl
  | some i =>
    simp only [execute, attempt, settleWord, settle, hword, hd]
    cases i.effect m.fetch <;> rfl

theorem numbers_execute : m.numbers.execute = .ok m.execute.1.numbers := by
  obtain ⟨handler, hget, hhandles⟩ := m.fetch.exists_handler
  rw [Numbers.execute, numbers_fetch, AccessError.ok_bind, hget, AccessError.ok_bind, hhandles,
    execute_fst]
  rfl

theorem numbers_countDown :
    m.numbers.countDown = { m with timers := m.timers.tick }.numbers := by
  have hdown (b : UInt8) : (if 0 < (b.toNat : Int) then (b.toNat : Int) - 1 else b.toNat) =
      (Timers.countDown b).toNat := by
    rw [Timers.countDown_toNat]
    split <;> omega
  have hdelay := hdown m.timers.delay
  have hsound := hdown m.timers.sound
  rw [Numbers.countDown, show m.numbers.delay = m.timers.delay.toNat from rfl,
    show m.numbers.sound = m.timers.sound.toNat from rfl, hdelay, hsound]
  rfl

theorem numbers_tick : m.numbers.tick = m.tick.1.numbers := by
  have hcount := Timers.countDown_toNat m.timers.sound
  have hdue : (0 < m.numbers.sound ∧ { m with timers := m.timers.tick }.numbers.sound = 0) ↔
      m.timers.toneDue = true := by
    rw [Timers.toneDue, decide_eq_true_eq, ← UInt8.toNat_inj]
    show 0 < (m.timers.sound.toNat : Int) ∧ ((Timers.countDown m.timers.sound).toNat : Int) = 0 ↔
      m.timers.sound.toNat = 1
    omega
  rw [Numbers.tick, tick, numbers_countDown]
  by_cases h : m.timers.toneDue = true
  · rw [if_pos (hdue.mpr h), if_pos h]
    rfl
  · rw [if_neg (mt hdue.mp h), if_neg h]

theorem numbers_step : m.numbers.step = .ok (m.step.1.numbers, m.step.2.2) := by
  have hhalted : m.numbers.halted = m.halted := rfl
  rw [Numbers.step, step, hhalted]
  split
  · rfl
  · rw [numbers_execute, AccessError.ok_bind, numbers_tick, advance]
    have hcoupled : m.execute.1.numbers.coupled = m.execute.1.coupled := rfl
    rw [hcoupled]
    split <;> rfl

theorem numbers_steps (n : Nat) :
    m.numbers.steps n = .ok ((m.steps n).machine.numbers, (m.steps n).executed) := by
  induction n generalizing m with
  | zero => rfl
  | succ n ih =>
    rw [Numbers.steps, numbers_step, AccessError.ok_bind, steps, step]
    split
    · rfl
    · simp only [if_true]
      rw [ih, AccessError.ok_bind]
      rfl

theorem numbers_frame (cycles : Int) :
    m.numbers.frame cycles = .ok ((m.frame cycles).machine.numbers, (m.frame cycles).executed) := by
  have hhalted : m.numbers.halted = m.halted := rfl
  have hcoupled (n : Machine) : n.numbers.coupled = n.coupled := rfl
  rw [Numbers.frame, frame_machine, frame_executed, closeFrame, hhalted]
  split
  · rfl
  · rw [numbers_steps, AccessError.ok_bind, numbers_tick, hcoupled]
    split <;> rfl

/-! ### What the host does -/

theorem numbers_writeBlock (a : Int) (program : List UInt8) :
    m.numbers.writeBlock a (Row.ofBytes program) =
      .ok { m with memory := m.memory.write a program }.numbers := by
  induction program generalizing m a with
  | nil => rfl
  | cons b rest ih =>
    rw [Row.ofBytes, List.map_cons, Numbers.writeBlock, m.numbers_setCell a rfl,
      AccessError.ok_bind]
    exact ih { m with memory := m.memory.set a b } (a + 1)

theorem put_press (k : Keypad) (key : Fin 16) (down : Bool) :
    Row.put k.held.toList key.val down = .ok (k.press key down).held.toList := by
  have hput := Row.put_map id k.held key.isLt down
  rwa [List.map_id, List.map_id] at hput

theorem foldlM_press (k : Keypad) (keys : List (Fin 16)) (down : Bool) :
    (keys.map Fin.val).foldlM (fun held (key : Nat) => Row.put held key down) k.held.toList =
      .ok (keys.foldl (fun k key => k.press key down) k).held.toList := by
  induction keys generalizing k with
  | nil => rfl
  | cons key rest ih =>
    rw [List.map_cons, List.foldlM_cons, put_press, AccessError.ok_bind, ih]
    rfl

theorem numbers_clearKeys : m.numbers.clearKeys = .ok m.releaseKeys.numbers := by
  have hkeys : List.range 16 = (List.finRange 16).map Fin.val := rfl
  have hloop := foldlM_press m.keypad (List.finRange 16) false
  rw [Numbers.clearKeys, hkeys, show m.numbers.keys = m.keypad.held.toList from rfl, hloop,
    AccessError.ok_bind, releaseKeys, Keypad.clearAll]
  rfl

theorem font_cells : (Memory.blank.write Layout.fontStart Layout.font).cells.toList =
    Layout.font ++ List.replicate 4016 0 := by
  have hfont : Layout.font.length = 80 := rfl
  have hlength : (Layout.font ++ List.replicate 4016 (0 : UInt8)).length = 4096 := by
    rw [List.length_append, hfont, List.length_replicate]
  refine List.ext_getElem (by rw [Vector.length_toList, hlength]) ?_
  intro i hi _
  have hlt : i < 4096 := by simpa using hi
  have hcell : cell (i : Int) = ⟨i, hlt⟩ := by
    apply Fin.ext
    simp only [cell]
    omega
  have hget : (Memory.blank.write Layout.fontStart Layout.font).cells[i] =
      (Memory.blank.write Layout.fontStart Layout.font).get i := by
    simp only [Memory.get, hcell]
  have hoffset : (((i : Int) - Layout.fontStart) % 4096).toNat = i := by
    simp only [Layout.fontStart]
    omega
  rw [Vector.getElem_toList, hget, Memory.get_write _ _ _ (by rw [hfont]; decide), hoffset,
    Memory.get_blank, List.getElem_append]
  split
  · rename_i hin
    rw [List.getElem?_eq_getElem hin, Option.getD_some]
  · rename_i hout
    rw [List.getElem?_eq_none (Nat.le_of_not_lt hout), Option.getD_none, List.getElem_replicate]

theorem splice_font : Row.splice (List.replicate 4096 0) 0 (Row.ofBytes Layout.font) =
    Row.ofBytes (Memory.blank.write Layout.fontStart Layout.font).cells.toList := by
  have hfont : (Row.ofBytes Layout.font).length = 80 := rfl
  rw [font_cells, Row.splice, hfont, List.drop_replicate, Row.ofBytes, Row.ofBytes, List.map_append,
    List.map_replicate]
  rfl

theorem numbers_reset : m.numbers.reset = .ok m.reset.numbers := by
  -- all is reset but the keys
  let n : Machine :=
    { assembled m.noise m.coupled with memory := Memory.blank.reset, keypad := m.keypad }
  have hpixels : m.numbers.pixels.length = 2048 := m.display.frame.numbers_length
  have hrest : m.numbers.reset = n.numbers.clearKeys := by
    rw [Numbers.reset, hpixels, splice_font, ← Frame.numbers_dark, ← Row.ofBytes_zeros 16]
    rfl
  have hreset : m.reset = n.releaseKeys := by
    rw [reset_eq, powerOn_eq, releaseKeys_eq]
    rfl
  rw [hrest, numbers_clearKeys, hreset]

theorem numbers_perform (op : Op) :
    m.numbers.perform op = .ok (m.perform op).machine.numbers := by
  cases op with
  | reset => exact m.numbers_reset
  | load data =>
    rw [Numbers.perform, perform, load]
    cases data.program with
    | error e => rfl
    | ok program => exact m.numbers_writeBlock _ program
  | step =>
    rw [Numbers.perform, numbers_step]
    rfl
  | frame cycles =>
    rw [Numbers.perform, perform]
    cases hc : cycles.count with
    | error e =>
      rw [frameOf, hc]
      cases m.halted <;> rfl
    | ok n =>
      rw [frameOf_of_count m hc]
      simp only [numbers_frame]
      rfl
  | tick => exact congrArg Except.ok m.numbers_tick
  | setKey index pressed =>
    rw [Numbers.perform, perform, setKey, Keypad.set]
    cases Keypad.key? index with
    | error e => rfl
    | ok key =>
      have hput : Row.put m.numbers.keys key.val pressed.truthy =
          .ok (m.keypad.press key pressed.truthy).held.toList :=
        put_press m.keypad key _
      simp only [hput]
      rfl
  | releaseKeys => exact m.numbers_clearKeys
  | consume => rfl

theorem numbers_after (ops : List Op) : m.numbers.after ops = .ok (m.after ops).numbers := by
  induction ops generalizing m with
  | nil => rfl
  | cons op rest ih =>
    rw [Numbers.after, numbers_perform, AccessError.ok_bind, ih]
    rfl

theorem numbers_assembled (noise : Noise) (coupled : Bool) :
    Numbers.assembled noise coupled = (assembled noise coupled).numbers := by
  rw [Numbers.assembled, ← Row.ofBytes_zeros 4096, ← Row.ofBytes_zeros 16, ← Frame.numbers_dark]
  rfl

theorem numbers_run (noise : Noise) (coupled : Bool) (ops : List Op) :
    Numbers.run noise coupled ops = .ok ((powerOn noise coupled).after ops).numbers := by
  rw [Numbers.run, numbers_assembled, numbers_reset, AccessError.ok_bind]
  exact numbers_after _ ops

variable {m}

theorem InRange.numbers_bounded (h : InRange m) : m.numbers.Bounded where
  memory_size := Row.ofBytes_length m.memory.cells
  memory_bytes := fun _ hn => Row.ofBytes_mem hn
  register_count := Row.ofBytes_length m.v
  register_bytes := fun _ hn => Row.ofBytes_mem hn
  pc := h.pc
  index := h.index
  depth := h.depth
  returns := h.returns
  delay := by
    have hb := m.timers.delay.toNat_lt
    simp only [numbers]
    omega
  sound := by
    have hb := m.timers.sound.toNat_lt
    simp only [numbers]
    omega
  pixel_count := m.display.frame.numbers_length
  pixel_values := fun _ hp => Frame.numbers_mem hp
  key_count := Vector.length_toList
  history := h.history

theorem numbers_answering (m : Machine) : m.numbers.Answering where
  step := ⟨_, _, m.numbers_step⟩
  frame := fun cycles => ⟨_, _, m.numbers_frame cycles⟩

/-- Every run from power-on, whatever it loads, presses or draws at random, leads to a well-formed
machine from which every request is answered. The same run in plain numbers makes no access that
fails: it ends in the numbers of that machine, which are in their bounds, and goes on without one.
-/
theorem run_wellFormed (noise : Noise) (coupled : Bool) (ops : List Op) :
    WellFormed ((powerOn noise coupled).after ops) ∧
      Answering ((powerOn noise coupled).after ops) ∧
      Numbers.run noise coupled ops = .ok ((powerOn noise coupled).after ops).numbers ∧
      ((powerOn noise coupled).after ops).numbers.Bounded ∧
      ((powerOn noise coupled).after ops).numbers.Answering := by
  have hrange : InRange ((powerOn noise coupled).after ops) :=
    reachable_inRange ⟨noise, coupled, ops, rfl⟩
  exact ⟨inRange_wellFormed hrange, answering _, numbers_run noise coupled ops,
    hrange.numbers_bounded, numbers_answering _⟩

end Machine

end Chip8
