import Chip8.Proofs.Reloading
import Chip8.Session

/-!
# The window as a host

A window shows pictures, plays sounds, writes captions and counts frames, but to its machine it is a
plain host: for each batch of events it passes on the keys, reloads the cartridge if asked to, and
runs a frame unless it is paused. Here these operations are written down without a window, and every
tick of a window is seen to ask its machine for them and for nothing else, apart from taking the
picture.
-/

namespace Chip8

open Machine (Op)

/-! ### A host without a window -/

/- What a tick finds: the files, the events that wait, and the time at its end. -/
structure Batch where
  disk : Disk
  events : List KeyEvent
  now : Quantity := .whole 0

/- Presses and releases of keypad keys, and a loss of the focus. -/
def KeyEvent.op? : KeyEvent → Option Op
  | keyDown code => (Keyboard.keypadKey? code).map fun key => .setKey (.int key.val) (.bool true)
  | keyUp code => (Keyboard.keypadKey? code).map fun key => .setKey (.int key.val) (.bool false)
  | focusLost => some .releaseKeys
  | closed => none
  | other => none

namespace Batch

def quits (b : Batch) : Bool := .closed ∈ b.events ∨ .keyDown Keyboard.quitKey ∈ b.events

def presses (b : Batch) (code : Int) : Bool := .keyDown code ∈ b.events

def keyOps (b : Batch) : List Op := b.events.filterMap KeyEvent.op?

def resetOps (b : Batch) (path : Text) : List Op :=
  if b.presses Keyboard.resetKey then Cartridge.reloadOps b.disk path else []

def ops (b : Batch) (path : Text) (cycles : Value) (paused : Bool) : List Op :=
  b.keyOps ++ (b.resetOps path ++ if paused then [] else [.frame cycles])

end Batch

/-- What a host without a window asks of its machine, batch after batch: first what happens to the
keys; then, unless the batch asks to quit, a reload if the reset key is pressed and the cartridge
can be used, and a frame if there is no pause. The pause key starts and ends a pause. -/
def hostOps (path : Text) (cycles : Value) (paused : Bool) : List Batch → List Op
  | [] => []
  | b :: rest =>
    if b.quits then b.keyOps
    else
      let paused := paused != b.presses Keyboard.pauseKey
      b.ops path cycles paused ++ hostOps path cycles paused rest

/-! ### Keys and requests -/

namespace Keyboard

theorem presses_cons (m : Machine) (e : KeyEvent) (rest : List KeyEvent) :
    presses m (e :: rest) = presses { m with keypad := e.press m.keypad } rest := rfl

/-- Events act on the machine by the operations that they stand for. -/
theorem presses_eq (m : Machine) (events : List KeyEvent) :
    presses m events = m.after (events.filterMap KeyEvent.op?) := by
  induction events generalizing m with
  | nil => rfl
  | cons e rest ih =>
    rw [presses_cons, ih, List.filterMap_cons]
    cases e with
    | keyDown code =>
      simp only [KeyEvent.op?, KeyEvent.press]
      cases keypadKey? code with
      | none => rfl
      | some key => simp [Machine.after, Machine.perform, Machine.setKey, Keypad.set_key]
    | keyUp code =>
      simp only [KeyEvent.op?, KeyEvent.press]
      cases keypadKey? code with
      | none => rfl
      | some key => simp [Machine.after, Machine.perform, Machine.setKey, Keypad.set_key]
    | focusLost =>
      simp only [KeyEvent.op?, KeyEvent.press, Machine.after, Machine.perform, Machine.releaseKeys]
    | closed => rfl
    | other => rfl

theorem requests_eq (c : Controls) (events : List KeyEvent) :
    requests c events =
      ⟨c.quit || decide (.closed ∈ events ∨ .keyDown quitKey ∈ events),
        c.pause || decide (.keyDown pauseKey ∈ events),
        c.reset || decide (.keyDown resetKey ∈ events)⟩ := by
  induction events generalizing c with
  | nil => simp [requests]
  | cons e rest ih =>
    have hcons : requests c (e :: rest) = requests (e.request c) rest := rfl
    rw [hcons, ih]
    cases e with
    | closed => simp [KeyEvent.request]
    | keyDown code =>
      have hqp : pauseKey ≠ quitKey := by decide
      have hqr : resetKey ≠ quitKey := by decide
      have hpr : resetKey ≠ pauseKey := by decide
      by_cases hq : code = quitKey
      · subst hq
        simp [KeyEvent.request, hqp, hqr]
      · by_cases hp : code = pauseKey
        · subst hp
          simp [KeyEvent.request, hqp, hqp.symm, hpr]
        · by_cases hr : code = resetKey
          · subst hr
            simp [KeyEvent.request, hqr, hqr.symm, hpr, hpr.symm]
          · simp [KeyEvent.request, hq, hp, hr, Ne.symm hq, Ne.symm hp, Ne.symm hr]
    | keyUp _ => simp [KeyEvent.request]
    | focusLost => simp [KeyEvent.request]
    | other => simp [KeyEvent.request]

end Keyboard

namespace Window

/-! ### The parts of a tick -/

theorem poll_eq (w : Window) (b : Batch) (hc : w.controls = {}) :
    w.poll b.events =
      { w with controls := ⟨b.quits, b.presses Keyboard.pauseKey, b.presses Keyboard.resetKey⟩,
               machine := w.machine.after b.keyOps } := by
  rw [poll, hc, Keyboard.requests_eq, Keyboard.presses_eq]
  simp [Batch.quits, Batch.presses, Batch.keyOps]

theorem answerPause_eq (w : Window) :
    w.answerPause =
      { w with controls := { w.controls with pause := false },
               paused := w.paused != w.controls.pause,
               caption := w.answerPause.caption } := by
  cases hp : w.controls.pause with
  | false => simp [answerPause, Controls.takePause, hp]
  | true => simp [answerPause, Controls.takePause, setPaused, hp]

theorem answerReset_eq (w : Window) (disk : Disk) :
    (w.answerReset disk).1 =
      { w with controls := { w.controls with reset := false },
               machine := w.machine.after
                 (if w.controls.reset then Cartridge.reloadOps disk w.cartridgePath else []),
               caption := (w.answerReset disk).1.caption } := by
  cases hr : w.controls.reset with
  | false =>
    simp [answerReset, Controls.takeReset, hr]
    rfl
  | true =>
    have hafter := Cartridge.after_reloadOps disk w.cartridgePath w.machine
    simp only [answerReset, Controls.takeReset, hr, if_true]
    rw [hafter]
    cases (Cartridge.reload disk w.cartridgePath w.machine).value.2 with
    | none => rfl
    | some e => rfl

theorem reactAll_eq (w : Window) (signals : List Signal) :
    (w.reactAll signals).1 =
      { w with beeper := (w.reactAll signals).1.beeper,
               caption := (w.reactAll signals).1.caption } := by
  induction signals generalizing w with
  | nil => rfl
  | cons s rest ih =>
    have hone : (w.react s).1 =
        { w with beeper := (w.react s).1.beeper, caption := (w.react s).1.caption } := by
      cases s with
      | tone => rfl
      | fault f =>
        simp only [react]
        split <;> rfl
      | fetched _ => rfl
      | loaded _ => rfl
    have hrest := ih (w.react s).1
    rw [reactAll]
    dsimp only
    rw [hrest]
    rw [hone]

theorem runFrame_eq {w v : Window} {e : Effects} (h : w.runFrame = .ok (v, e)) :
    v = { w with machine := w.machine.after
                   (if w.paused then [] else [.frame (.ofQuantity w.cyclesPerFrame)]),
                 beeper := v.beeper, caption := v.caption } := by
  unfold runFrame at h
  by_cases hp : w.paused = true
  · rw [if_pos hp] at h ⊢
    cases h
    rfl
  · rw [if_neg hp] at h ⊢
    cases hf : w.machine.frameOf (.ofQuantity w.cyclesPerFrame) with
    | error e' =>
      rw [hf] at h
      cases h
    | ok r =>
      rw [hf] at h
      cases h
      have hm : w.machine.after [.frame (.ofQuantity w.cyclesPerFrame)] = r.machine := by
        simp only [Machine.after, Machine.perform, hf]
      rw [hm]
      exact reactAll_eq { w with machine := r.machine } r.signals

theorem runFrame_whole {w : Window} {cycles : Int} (h : w.cyclesPerFrame = .whole cycles) :
    ∃ r, w.runFrame = .ok r := by
  have hcount : (Value.ofQuantity (.whole cycles)).count = .ok cycles := rfl
  unfold runFrame
  rw [h, w.machine.frameOf_of_count hcount]
  split
  · exact ⟨_, rfl⟩
  · exact ⟨_, rfl⟩

theorem presentIfDirty_eq (w : Window) :
    w.presentIfDirty =
      { w with machine := w.machine.after (if w.machine.display.dirty then [.consume] else []),
               shown := if w.machine.display.dirty then w.machine.display.frame else w.shown } := by
  unfold presentIfDirty
  split <;> rfl

theorem countFrame_eq (w : Window) (now : Quantity) :
    (w.countFrame now).1 =
      { w with caption := (w.countFrame now).1.caption,
               frameCount := (w.countFrame now).1.frameCount,
               since := (w.countFrame now).1.since } := by
  unfold countFrame
  dsimp only
  split
  · rfl
  · unfold showRate
    dsimp only
    split <;> rfl

/-! ### A tick -/

theorem advance_quits {w : Window} {b : Batch} (hc : w.controls = {}) (hq : b.quits = true) :
    (w.advance b.disk b.events).2.2 = .quits ∧
      (w.advance b.disk b.events).1.machine = w.machine.after b.keyOps := by
  simp only [advance, poll_eq w b hc, hq, if_true]
  exact ⟨trivial, trivial⟩

/- The window after its requests have been answered. -/
theorem answer_eq {w : Window} {b : Batch} (hc : w.controls = {}) (hq : b.quits = false) :
    ((w.poll b.events).answerPause.answerReset b.disk).1 =
      { w with paused := w.paused != b.presses Keyboard.pauseKey,
               machine := (w.machine.after b.keyOps).after (b.resetOps w.cartridgePath),
               caption := ((w.poll b.events).answerPause.answerReset b.disk).1.caption } := by
  have hpause := answerPause_eq (w.poll b.events)
  rw [answerReset_eq, hpause, poll_eq w b hc]
  simp only [hq, hc, Batch.resetOps]

theorem advance_eq {w : Window} {b : Batch} (hc : w.controls = {}) (hq : b.quits = false) :
    w.advance b.disk b.events =
      match ((w.poll b.events).answerPause.answerReset b.disk).1.runFrame with
      | .error e =>
        (((w.poll b.events).answerPause.answerReset b.disk).1,
          ((w.poll b.events).answerPause.answerReset b.disk).2, .fails (.operand e))
      | .ok f =>
        (f.1.presentIfDirty, ((w.poll b.events).answerPause.answerReset b.disk).2 ++ f.2,
          .waits) := by
  have hno : ¬(w.poll b.events).controls.quit = true := by
    rw [poll_eq w b hc, hq]
    exact Bool.false_ne_true
  exact if_neg hno

/- What a window asks of its machine for a batch that does not ask to quit, before it looks at the
picture. -/
def turnOps (w : Window) (b : Batch) : List Op :=
  b.ops w.cartridgePath (.ofQuantity w.cyclesPerFrame) (w.paused != b.presses Keyboard.pauseKey)

def pictureDue (w : Window) (b : Batch) : Bool := (w.machine.after (w.turnOps b)).display.dirty

def tickOps (w : Window) (b : Batch) : List Op :=
  w.turnOps b ++ if w.pictureDue b then [.consume] else []

/-- What has become of a window by a tick that got to its wait. Beeper, caption and frame rate are
left out: nothing else depends on them. -/
structure Ticked (w : Window) (b : Batch) (v : Window) : Prop where
  goesOn : b.quits = false
  controls : v.controls = {}
  path : v.cartridgePath = w.cartridgePath
  cycles : v.cyclesPerFrame = w.cyclesPerFrame
  paused : v.paused = (w.paused != b.presses Keyboard.pauseKey)
  machine : v.machine = w.machine.after (w.tickOps b)
  shown : v.shown = if w.pictureDue b then v.machine.display.frame else w.shown

theorem ticked_present {w v : Window} {b : Batch} (hc : w.controls = {}) (hq : b.quits = false)
    (h : v = { w with paused := w.paused != b.presses Keyboard.pauseKey,
                      machine := w.machine.after (w.turnOps b),
                      beeper := v.beeper, caption := v.caption }) :
    Ticked w b v.presentIfDirty := by
  rw [presentIfDirty_eq, h]
  refine ⟨hq, hc, rfl, rfl, rfl, ?_, ?_⟩
  · rw [tickOps, Machine.after_append]
    rfl
  · unfold pictureDue
    dsimp only
    cases (w.machine.after (w.turnOps b)).display.dirty with
    | true => rfl
    | false => rfl

theorem Ticked.countFrame {w v : Window} {b : Batch} (h : Ticked w b v) (now : Quantity) :
    Ticked w b (v.countFrame now).1 := by
  rw [countFrame_eq]
  exact ⟨h.goesOn, h.controls, h.path, h.cycles, h.paused, h.machine, h.shown⟩

theorem tick_fst (w : Window) (disk : Disk) (events : List KeyEvent) (now : Quantity) :
    (w.tick disk events now).1 =
      match (w.advance disk events).2.2 with
      | .waits => ((w.advance disk events).1.countFrame now).1
      | _ => (w.advance disk events).1 := by
  unfold tick
  obtain ⟨v, e, progress⟩ := w.advance disk events
  cases progress with
  | waits => rfl
  | quits => rfl
  | fails c => rfl

theorem advance_ticked {w : Window} {b : Batch} (hc : w.controls = {})
    (h : (w.advance b.disk b.events).2.2 = .waits) :
    Ticked w b (w.advance b.disk b.events).1 := by
  cases hq : b.quits with
  | true =>
    rw [(advance_quits hc hq).1] at h
    cases h
  | false =>
    rw [advance_eq hc hq] at h ⊢
    cases hf : ((w.poll b.events).answerPause.answerReset b.disk).1.runFrame with
    | error e =>
      rw [hf] at h
      cases h
    | ok f =>
      have hrun := runFrame_eq (v := f.1) (e := f.2) hf
      rw [answer_eq hc hq] at hrun
      apply ticked_present hc hq
      rw [hrun]
      simp only [turnOps, Batch.ops, Machine.after_append]

theorem advance_whole {w : Window} {b : Batch} {cycles : Int} (hc : w.controls = {})
    (hw : w.cyclesPerFrame = .whole cycles) (hq : b.quits = false) :
    (w.advance b.disk b.events).2.2 = .waits := by
  have hcycles : ((w.poll b.events).answerPause.answerReset b.disk).1.cyclesPerFrame =
      .whole cycles := by
    rw [answer_eq hc hq]
    exact hw
  obtain ⟨r, hr⟩ := runFrame_whole hcycles
  rw [advance_eq hc hq, hr]

/-! ### Ticks until the end -/

/- The window of a session before its first tick. -/
def started (w : Window) (now : Quantity) : Window :=
  { w with running := true, since := now, frameCount := 0 }.present

/- Ticks for one batch after the other, until one does not get to its wait. -/
def play (w : Window) : List Batch → Window × Progress
  | [] => (w, .waits)
  | b :: rest =>
    match (w.advance b.disk b.events).2.2 with
    | .waits => (w.tick b.disk b.events b.now).1.play rest
    | ended => ((w.tick b.disk b.events b.now).1, ended)

theorem play_waits {w : Window} {b : Batch} (h : (w.advance b.disk b.events).2.2 = .waits)
    (rest : List Batch) :
    w.play (b :: rest) = (w.tick b.disk b.events b.now).1.play rest := by
  rw [play, h]

theorem tick_ticked {w : Window} {b : Batch} (hc : w.controls = {})
    (h : (w.advance b.disk b.events).2.2 = .waits) :
    Ticked w b (w.tick b.disk b.events b.now).1 := by
  rw [tick_fst, h]
  exact (advance_ticked hc h).countFrame b.now

/-! ### Opening a window -/

theorem create_ok {s : WindowSettings} {disk : Disk} {mixer : Mixer} {noise : Noise} {kept : Bool}
    {w : Window} (h : (create s disk mixer noise kept).2 = .ok w) :
    ∃ scale cycles m beeper, cyclesOf s.cpuHz = .ok cycles ∧
      (Cartridge.boot disk s.cartridgePath noise s.legacyTiming).value = .ok m ∧
      w = fresh s.cartridgePath scale cycles m beeper := by
  unfold create at h
  cases hs : scaleOf s.scale with
  | error e =>
    rw [hs] at h
    cases h
  | ok scale =>
    cases hr : cyclesOf s.cpuHz with
    | error e =>
      rw [hs, hr] at h
      cases h
    | ok cycles =>
      rw [hs, hr] at h
      simp only [createWith] at h
      cases hb : (Cartridge.boot disk s.cartridgePath noise s.legacyTiming).value with
      | error e =>
        rw [hb] at h
        cases h
      | ok m =>
        rw [hb] at h
        dsimp only at h
        cases ht : (ToneDevice.start mixer disk s.audio kept s.beepFile).device with
        | error e =>
          rw [ht] at h
          cases h
        | ok beeper =>
          rw [ht] at h
          cases h
          exact ⟨scale, cycles, m, beeper, rfl, rfl, rfl⟩

/- A cartridge of one instruction, which draws a line at the top left, in a silent window that runs
one instruction a frame. -/
def sketchSettings : WindowSettings :=
  { cartridgePath := ⟨[97]⟩, cpuHz := .int 60, audio := false }

def sketchDisk : Disk := { entries := [([[97]], .file [0xD0, 0x01])] }

def sketchMachine : Machine := (Machine.powerOn ⟨fun _ => 0, 0⟩ false).place [0xD0, 0x01]

def sketchWindow : Window :=
  fresh ⟨[97]⟩ (.whole 10) (.whole 1) sketchMachine ⟨false, false, false, 0⟩

/- The line is drawn; then the cartridge is loaded again as a pause begins. -/
def reloadInPause : List Batch :=
  [⟨sketchDisk, [], .whole 1⟩,
    ⟨sketchDisk, [.keyDown Keyboard.pauseKey, .keyDown Keyboard.resetKey], .whole 2⟩]

theorem sketch_bytes : Cartridge.bytes sketchDisk ⟨[97]⟩ = .ok [0xD0, 0x01] := by rfl

theorem silent_opened {disk : Disk} {data : List UInt8}
    (h : Cartridge.bytes disk ⟨[97]⟩ = .ok data) :
    (create sketchSettings disk {} ⟨fun _ => 0, 0⟩ false).2 =
      .ok (fresh ⟨[97]⟩ (.whole 10) (.whole 1)
        ((Machine.powerOn ⟨fun _ => 0, 0⟩ false).place data) ⟨false, false, false, 0⟩) := by
  have hboot := Cartridge.boot_value disk ⟨[97]⟩ ⟨fun _ => 0, 0⟩ false
  rw [h] at hboot
  have hstart : create sketchSettings disk {} ⟨fun _ => 0, 0⟩ false =
      createWith sketchSettings (.whole 10) (.whole 1) disk {} ⟨fun _ => 0, 0⟩ false := rfl
  rw [hstart, createWith]
  simp only [sketchSettings, hboot]
  rfl

theorem sketch_opened :
    (create sketchSettings sketchDisk {} ⟨fun _ => 0, 0⟩ false).2 = .ok sketchWindow :=
  silent_opened sketch_bytes

end Window

end Chip8
