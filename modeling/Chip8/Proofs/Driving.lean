import Chip8.Proofs.HostLoop

/-!
# Windows drive machines

The machine of a window goes through the same states as a machine that is made from the same
cartridge and driven by hand, up to its note on whether the picture is new, which the window clears
whenever it has shown the picture. This holds for ticks that are asked for one by one and for whole
sessions, whatever happens to the files in between.
-/

namespace Chip8

open Machine (Op)

/-! ### The note about the picture -/

namespace Machine

/-- One machine is the other with another note on whether the picture is new. -/
def SameButDirty (m n : Machine) : Prop :=
  n = { m with display := { m.display with dirty := n.display.dirty } }

def undirtied (m : Machine) : Machine := { m with display := { m.display with dirty := false } }

theorem undirtied_eq_iff (m n : Machine) : undirtied m = undirtied n ↔ SameButDirty m n := by
  constructor
  · intro h
    have hn : n =
        { undirtied n with
          display := { (undirtied n).display with dirty := n.display.dirty } } := rfl
    rw [← h] at hn
    exact hn
  · intro h
    rw [h]
    rfl

theorem undirtied_mask : Mask undirtied fun _ => True where
  memory _ := rfl
  v _ := rfl
  index _ := rfl
  pc _ := rfl
  stack _ := rfl
  keypad _ := rfl
  picture _ := rfl
  random _ := rfl
  write _ _ _ _ _ _ := rfl
  paint _ _ _ := rfl
  draw _ _ := rfl
  wait _ _ _ _ := rfl
  loadDelay _ _ := rfl
  loadSound _ _ := rfl
  halted _ := rfl
  delay := .inr fun _ => rfl
  fetch _ := rfl
  count _ := rfl
  fault _ _ := rfl
  act m a ha := by
    cases a with
    | execute => exact absurd rfl ha
    | tick =>
      have htimers : (undirtied m).timers = m.timers := rfl
      simp only [act, tick, htimers]
      split <;> rfl
    | reset => rfl
    | place _ => rfl
    | countFrame => rfl
    | keys _ => rfl
    | consume => rfl
  timing := .inr fun _ => rfl

theorem after_undirtied {m n : Machine} (h : undirtied m = undirtied n) (ops : List Op) :
    undirtied (m.after ops) = undirtied (n.after ops) :=
  (undirtied_mask.after_eq ops h fun _ _ _ _ => trivial).1

end Machine

open Machine (undirtied SameButDirty)

namespace Window

/-! ### Ticks -/

theorem Ticked.undirtied_machine {w v : Window} {b : Batch} (h : Ticked w b v) :
    undirtied v.machine = undirtied (w.machine.after (w.turnOps b)) := by
  rw [h.machine, tickOps, Machine.after_append]
  split <;> rfl

/-- The machine of a window goes along with a machine that is driven by hand. -/
theorem play_drives {w : Window} {m : Machine} {cycles : Int} (hc : w.controls = {})
    (hw : w.cyclesPerFrame = .whole cycles) (hm : undirtied w.machine = undirtied m)
    (batches : List Batch) :
    undirtied (w.play batches).1.machine =
      undirtied (m.after (hostOps w.cartridgePath (.int cycles) w.paused batches)) := by
  induction batches generalizing w m with
  | nil => exact hm
  | cons b rest ih =>
    rw [hostOps]
    cases hq : b.quits with
    | true =>
      obtain ⟨hquits, hmachine⟩ := advance_quits hc hq
      have htick : (w.play (b :: rest)).1.machine = w.machine.after b.keyOps := by
        rw [play, hquits, tick_fst, hquits]
        exact hmachine
      rw [htick]
      exact Machine.after_undirtied hm _
    | false =>
      have hwaits := advance_whole hc hw hq
      have hticked := tick_ticked hc hwaits
      have hops : w.turnOps b =
          b.ops w.cartridgePath (.int cycles) (w.paused != b.presses Keyboard.pauseKey) := by
        rw [turnOps, hw]
        rfl
      have hnext : undirtied (w.tick b.disk b.events b.now).1.machine =
          undirtied (m.after (w.turnOps b)) :=
        hticked.undirtied_machine.trans (Machine.after_undirtied hm _)
      have hrest := ih hticked.controls (hticked.cycles.trans hw) hnext
      rw [play_waits hwaits, hrest, hticked.path, hticked.paused, hops, ← Machine.after_append]
      rfl

/-- At a whole number of instructions a frame, only a request to quit ends the ticks. -/
theorem play_progress {w : Window} {cycles : Int} (hc : w.controls = {})
    (hw : w.cyclesPerFrame = .whole cycles) (batches : List Batch) :
    (w.play batches).2 = if batches.any Batch.quits then .quits else .waits := by
  induction batches generalizing w with
  | nil => rfl
  | cons b rest ih =>
    rw [List.any_cons]
    cases hq : b.quits with
    | true =>
      rw [play, (advance_quits hc hq).1]
      rfl
    | false =>
      have hwaits := advance_whole hc hw hq
      have hticked := tick_ticked hc hwaits
      rw [play_waits hwaits, ih hticked.controls (hticked.cycles.trans hw), Bool.false_or]

theorem cyclesOf_integer {v : Value} {hz : Int} (h : v.toInt? = some hz) :
    cyclesOf v = .ok (.whole (max 1 (hz / 60))) := by
  have hquantity : v.quantity? = some (.whole hz) := by
    cases v with
    | float x => cases h
    | int n =>
      cases h
      rfl
    | bool t =>
      cases h
      rfl
    | _ => cases h
  have hfloor : hz.fdiv Layout.timerHz = hz / 60 := Int.fdiv_eq_ediv_of_nonneg hz (by decide)
  rw [← hfloor, cyclesOf, hquantity]
  rfl

end Window

/-! ### Sessions -/

namespace Session

/- What the ticks of a session find, up to its end from outside. The window is closed when the beats
run out. -/
def batches (disk : Disk) (now : Quantity) : List Beat → List Batch
  | [] => [⟨disk, [.closed], now⟩]
  | b :: rest =>
    match Window.later now b.wait, Happening.follow disk b.happenings with
    | .ok later, (disk', none) =>
      ⟨disk, b.events, later⟩ ::
        if (Window.seconds? later).isSome then batches disk' later rest else []
    | _, _ => [⟨disk, b.events, now⟩]

theorem tick_machine (w : Window) (disk : Disk) (events : List KeyEvent) (now : Quantity) :
    (w.tick disk events now).1.machine = (w.advance disk events).1.machine := by
  rw [Window.tick_fst]
  split
  · rw [Window.countFrame_eq]
  · rfl

theorem play_one (w : Window) (b : Batch) :
    (w.play [b]).1.machine = (w.advance b.disk b.events).1.machine := by
  rw [← tick_machine w b.disk b.events b.now, Window.play]
  split <;> rfl

theorem play_ends {w : Window} {b : Batch} (h : (w.advance b.disk b.events).2.2 ≠ .waits)
    (rest : List Batch) :
    (w.play (b :: rest)).1.machine = (w.advance b.disk b.events).1.machine := by
  rw [← tick_machine w b.disk b.events b.now, Window.play]
  split
  · rename_i hw
    exact absurd hw h
  · rfl

theorem countFrame_crash (w : Window) (now : Quantity) :
    (w.countFrame now).2 = if (Window.seconds? now).isSome then none else some .clock := by
  unfold Window.countFrame
  cases Window.seconds? now with
  | none => rfl
  | some t => rfl

theorem batches_cons (disk : Disk) (now : Quantity) (b : Beat) (rest : List Beat) :
    ∃ time others, batches disk now (b :: rest) = ⟨disk, b.events, time⟩ :: others := by
  rw [batches]
  split
  · exact ⟨_, _, rfl⟩
  · exact ⟨_, _, rfl⟩

theorem loop_ends {w : Window} {disk : Disk} {now : Quantity} {b : Beat} {rest : List Beat}
    (h : (w.advance disk b.events).2.2 ≠ .waits) :
    (loop w disk now (b :: rest)).window.machine = (w.advance disk b.events).1.machine := by
  rw [loop]
  generalize w.advance disk b.events = a at h ⊢
  obtain ⟨v, e, progress⟩ := a
  cases progress with
  | waits => exact absurd rfl h
  | quits => rfl
  | fails c => rfl

theorem loop_goesOn {w : Window} {disk : Disk} {now : Quantity} {b : Beat} {rest : List Beat}
    (h : (w.advance disk b.events).2.2 = .waits) :
    (loop w disk now (b :: rest)).window.machine =
      match Window.later now b.wait, Happening.follow disk b.happenings with
      | .ok later, (disk', none) =>
        if (Window.seconds? later).isSome then
          (loop (w.tick disk b.events later).1 disk' later rest).window.machine
        else (w.advance disk b.events).1.machine
      | _, _ => (w.advance disk b.events).1.machine := by
  have htick (later : Quantity) : (w.tick disk b.events later).1 =
      ((w.advance disk b.events).1.countFrame later).1 := by
    rw [Window.tick_fst, h]
  simp only [htick]
  rw [loop]
  generalize w.advance disk b.events = a at h ⊢
  obtain ⟨v, e, progress⟩ := a
  cases h
  obtain ⟨disk', ending⟩ := Happening.follow disk b.happenings
  cases Window.later now b.wait with
  | error c => cases ending <;> rfl
  | ok later =>
    cases ending with
    | some ending => rfl
    | none =>
      have hcrash := countFrame_crash v later
      have hkeep : (v.countFrame later).1.machine = v.machine := by rw [Window.countFrame_eq]
      dsimp only
      generalize v.countFrame later = c at hcrash hkeep ⊢
      obtain ⟨u, crash⟩ := c
      cases hs : (Window.seconds? later).isSome with
      | true =>
        rw [hs] at hcrash
        cases hcrash
        rfl
      | false =>
        rw [hs] at hcrash
        cases hcrash
        exact hkeep

/-- A session leaves the machine as the ticks for its batches leave it. -/
theorem loop_machine (w : Window) (disk : Disk) (now : Quantity) (beats : List Beat) :
    (loop w disk now beats).window.machine = (w.play (batches disk now beats)).1.machine := by
  induction beats generalizing w disk now with
  | nil =>
    rw [batches, play_one]
    rfl
  | cons b rest ih =>
    by_cases hw : (w.advance disk b.events).2.2 = .waits
    · rw [loop_goesOn hw, batches]
      split
      · rename_i later disk' hlater hfollow
        rw [Window.play_waits hw]
        cases (Window.seconds? later).isSome with
        | true => exact ih _ _ _
        | false => exact (tick_machine w disk b.events later).symm
      · exact (play_one w ⟨disk, b.events, now⟩).symm
    · obtain ⟨time, others, hb⟩ := batches_cons disk now b rest
      rw [loop_ends hw, hb, play_ends hw]

theorem run_machine {w : Window} {now : Quantity} (h : (Window.seconds? now).isSome) (disk : Disk)
    (beats : List Beat) :
    (run w disk now beats).window.machine =
      ((w.started now).play (batches disk now beats)).1.machine := by
  rw [run]
  cases hs : Window.seconds? now with
  | none =>
    rw [hs] at h
    cases h
  | some t => exact loop_machine _ disk now beats

end Session

/-- Open a window on a cartridge, at an integer rate. Its machine is then the one that a fresh start
makes from the cartridge, driven by hand with the operations of a host without a window, for all
batches of events and files that the ticks can find, and in every session; only the note on whether
the picture is new may differ. Nothing but a request to quit ends the ticks. -/
theorem window_drives {s : WindowSettings} {hz : Int} (rate : s.cpuHz.toInt? = some hz)
    {disk : Disk} {mixer : Mixer} {noise : Noise} {kept : Bool} {w : Window}
    (opened : (Window.create s disk mixer noise kept).2 = .ok w) :
    ∃ m, (Cartridge.boot disk s.cartridgePath noise s.legacyTiming).value = .ok m ∧
      (∀ batches,
        SameButDirty (w.play batches).1.machine
          (m.after (hostOps s.cartridgePath (.int (max 1 (hz / 60))) false batches)) ∧
        (w.play batches).2 = if batches.any Batch.quits then .quits else .waits) ∧
      ∀ now beats, (Window.seconds? now).isSome →
        SameButDirty (Session.run w disk now beats).window.machine
          (m.after (hostOps s.cartridgePath (.int (max 1 (hz / 60))) false
            (Session.batches disk now beats))) := by
  obtain ⟨scale, cycles, m, beeper, hcycles, hboot, rfl⟩ := Window.create_ok opened
  rw [Window.cyclesOf_integer rate] at hcycles
  cases hcycles
  refine ⟨m, hboot, ?_, ?_⟩
  · intro batches
    constructor
    · rw [← Machine.undirtied_eq_iff]
      exact Window.play_drives rfl rfl rfl batches
    · exact Window.play_progress rfl rfl batches
  · intro now beats hnow
    rw [← Machine.undirtied_eq_iff, Session.run_machine hnow]
    let first := Window.fresh s.cartridgePath scale (.whole (max 1 (hz / 60))) m beeper
    exact Window.play_drives (m := m) (w := first.started now) rfl rfl rfl _

/-- A line is drawn; the cartridge is loaded again in a pause; the pause ends when the cartridge is
gone; a key goes down together with the request to quit. -/
theorem sketch_driven :
    Window.sketchSettings.cpuHz.toInt? = some 60 ∧
      (Window.create Window.sketchSettings Window.sketchDisk {} ⟨fun _ => 0, 0⟩ false).2 =
        .ok Window.sketchWindow ∧
      ∃ m, (Cartridge.boot Window.sketchDisk ⟨[97]⟩ ⟨fun _ => 0, 0⟩ false).value = .ok m ∧
        SameButDirty
          (Window.sketchWindow.play
            (Window.reloadInPause ++
              [⟨.empty, [.keyDown Keyboard.resetKey, .keyDown Keyboard.pauseKey], .whole 3⟩,
                ⟨.empty, [.keyDown 49, .keyDown Keyboard.quitKey], .whole 4⟩])).1.machine
          (m.after
            [.frame (.int 1), .reset, .load (.bytes [0xD0, 0x01]), .frame (.int 1),
              .setKey (.int 1) (.bool true)]) := by
  obtain ⟨m, hboot, hplay, -⟩ := window_drives (s := Window.sketchSettings) rfl Window.sketch_opened
  exact ⟨rfl, Window.sketch_opened, m, hboot, (hplay _).1⟩

end Chip8
