import Chip8.Proofs.FaultRecord
import Chip8.Proofs.Pausing

/-!
# Captions

A fatal fault is written into the caption of the window when it happens, in the frame that halts the
machine. A halted machine has no more faults to tell of, so nothing writes it again: it stays only
if nothing else is written. The frame rate is held back while the machine is halted, and a reload
that fails writes nothing, but every change of the pause does.
-/

namespace Chip8

open Keyboard (pauseKey resetKey)

namespace Window

/-! ### Faults in the caption -/

def captionAfter (caption : String) (faults : List Fault) : String :=
  faults.foldl (fun c f => if f.kind.fatal then haltedCaption f.kind else c) caption

theorem captionAfter_append (caption : String) (a b : List Fault) :
    captionAfter caption (a ++ b) = captionAfter (captionAfter caption a) b := List.foldl_append

theorem reactAll_caption (w : Window) (signals : List Signal) :
    (w.reactAll signals).1.caption = captionAfter w.caption (Signal.faults signals) := by
  induction signals generalizing w with
  | nil => rfl
  | cons s rest ih =>
    have hfirst : (w.react s).1.caption = captionAfter w.caption (Signal.faults [s]) := by
      cases s with
      | fault f =>
        simp only [react]
        cases hf : f.kind.fatal with
        | true => simp [captionAfter, Signal.faults, Signal.fault?, hf]
        | false => simp [captionAfter, Signal.faults, Signal.fault?, hf]
      | tone => rfl
      | fetched _ => rfl
      | loaded _ => rfl
    have hsplit : Signal.faults (s :: rest) = Signal.faults [s] ++ Signal.faults rest :=
      Signal.faults_append [s] rest
    rw [reactAll, hsplit, captionAfter_append, ← hfirst]
    exact ih _

/- If the machine is halted, the caption names the fault that has halted it. -/
def NamesHalt (caption : String) (m : Machine) : Prop :=
  m.halted = true →
    ∃ f, m.faults.getLast? = some f ∧ f.kind.fatal = true ∧ caption = haltedCaption f.kind

theorem namesHalt_of_live {m : Machine} (live : m.halted = false) (caption : String) :
    NamesHalt caption m := by
  intro halted
  rw [live] at halted
  cases halted

theorem namesHalt_carried (caption : String) :
    Machine.Carried fun m past => NamesHalt (captionAfter caption (Signal.faults past)) m := by
  intro m n s past move h halted
  rw [Signal.faults_append]
  rcases Machine.move_record move with ⟨hs, hf, hh, -⟩ | ⟨kind, -, -, hs, hf, hh, -⟩
  · rw [hh] at halted
    rw [hs, List.append_nil, hf]
    exact h halted
  · -- the fault that halts the machine is recorded last and told last
    have hfatal : kind.fatal = true := hh.symm.trans halted
    have hlast : (Machine.remember m.faults (m.faultOf kind)).getLast? = some (m.faultOf kind) := by
      rw [Machine.remember_eq_rtake, Machine.getLast?_rtake_succ, List.getLast?_concat]
    refine ⟨m.faultOf kind, by rw [hf, hlast], hfatal, ?_⟩
    rw [hs, captionAfter_append]
    exact if_pos hfatal

theorem runFrame_namesHalt {w v : Window} {e : Effects} (live : w.machine.halted = false)
    (h : w.runFrame = .ok (v, e)) : NamesHalt v.caption v.machine := by
  unfold runFrame at h
  split at h
  · cases h
    exact namesHalt_of_live live _
  · cases hf : w.machine.frameOf (.ofQuantity w.cyclesPerFrame) with
    | error e' =>
      rw [hf] at h
      cases h
    | ok r =>
      rw [hf] at h
      cases h
      have hend := (Machine.frameOf_trail hf).carries (namesHalt_carried w.caption) []
        (namesHalt_of_live live _)
      rw [reactAll_caption, reactAll_eq]
      exact hend

theorem runFrame_halted {w : Window} (h : w.machine.halted = true) :
    ∃ e, w.runFrame = .ok (w, e) := by
  unfold runFrame
  split
  · exact ⟨_, rfl⟩
  · rw [Machine.frameOf, h]
    exact ⟨_, rfl⟩

end Window

/-! ### Requests and the caption -/

def Cartridge.readable (disk : Disk) (path : Text) : Bool :=
  match bytes disk path with
  | .ok _ => true
  | .error _ => false

/- The reset key is pressed and there is a cartridge to load. -/
def Batch.reloads (b : Batch) (path : Text) : Bool :=
  b.presses resetKey && Cartridge.readable b.disk path

theorem Batch.resetOps_of_not_reloads {b : Batch} {path : Text} (h : b.reloads path = false) :
    b.resetOps path = [] := by
  unfold reloads Cartridge.readable at h
  unfold resetOps Cartridge.reloadOps
  cases hr : b.presses resetKey with
  | false => rfl
  | true =>
    cases hb : Cartridge.bytes b.disk path with
    | error e => rfl
    | ok data =>
      rw [hr, hb] at h
      cases h

theorem Batch.after_resetOps_of_reloads {b : Batch} {path : Text} (h : b.reloads path = true)
    (m : Machine) : (m.after (b.resetOps path)).halted = false := by
  unfold reloads Cartridge.readable at h
  rw [Bool.and_eq_true] at h
  rw [resetOps, if_pos h.1, Cartridge.after_reloadOps, Cartridge.reload_value]
  cases hb : Cartridge.bytes b.disk path with
  | error e =>
    rw [hb] at h
    cases h.2
  | ok data => rfl

namespace Window

theorem answerPause_caption (w : Window) :
    w.answerPause.caption =
      if w.controls.pause then title w.answerPause.paused else w.caption := by
  unfold answerPause Controls.takePause
  dsimp only
  split <;> rfl

theorem answerReset_caption {w : Window} {disk : Disk}
    (h : (w.controls.reset && Cartridge.readable disk w.cartridgePath) = false) :
    (w.answerReset disk).1.caption = w.caption := by
  unfold answerReset Controls.takeReset
  dsimp only
  split
  · rename_i hr
    rw [hr, Bool.true_and, Cartridge.readable] at h
    rw [Cartridge.reload_value]
    cases hb : Cartridge.bytes disk w.cartridgePath with
    | error e => rfl
    | ok data =>
      rw [hb] at h
      cases h
  · rfl

/-- Without a reload the machine is halted as before, and only a press of the pause key changes the
caption. -/
theorem answered_unloaded {w : Window} {b : Batch} (hc : w.controls = {}) (hq : b.quits = false)
    (h : b.reloads w.cartridgePath = false) :
    (w.answered b).machine.halted = w.machine.halted ∧
      (w.answered b).machine.faults = w.machine.faults ∧
      (w.answered b).caption =
        if b.presses pauseKey then title (w.answered b).paused else w.caption := by
  have hanswer : w.answered b = _ := answer_eq hc hq
  have hmachine : (w.answered b).machine = Keyboard.presses w.machine b.events := by
    rw [hanswer, Keyboard.presses_eq, Batch.resetOps_of_not_reloads h]
    rfl
  have hpause := answerPause_eq (w.poll b.events)
  have hpoll := poll_eq w b hc
  have hreset : (w.answered b).caption = (w.poll b.events).answerPause.caption := by
    apply answerReset_caption
    rw [hpause, hpoll]
    exact h
  have hpaused : (w.answered b).paused = (w.poll b.events).answerPause.paused := by
    rw [hanswer, hpause, hpoll]
  rw [hmachine, hreset, hpaused, answerPause_caption, hpoll]
  exact ⟨rfl, rfl, rfl⟩

theorem answered_reloaded {w : Window} {b : Batch} (hc : w.controls = {}) (hq : b.quits = false)
    (h : b.reloads w.cartridgePath = true) : (w.answered b).machine.halted = false := by
  have hanswer : w.answered b = _ := answer_eq hc hq
  rw [hanswer]
  exact Batch.after_resetOps_of_reloads h _

theorem countFrame_caption {w : Window} (h : w.machine.halted = true) (now : Quantity) :
    (w.countFrame now).1.caption = w.caption := by
  unfold countFrame showRate
  dsimp only
  split
  · rfl
  · rw [h]
    split <;> rfl

/-- What is done after a frame leaves the caption of a halted machine alone. -/
theorem closing_halted (w : Window) (now : Quantity) :
    (w.presentIfDirty.countFrame now).1.machine.halted = w.machine.halted ∧
      (w.presentIfDirty.countFrame now).1.machine.faults = w.machine.faults ∧
      (w.machine.halted = true → (w.presentIfDirty.countFrame now).1.caption = w.caption) := by
  have hpresent : w.presentIfDirty.machine.halted = w.machine.halted ∧
      w.presentIfDirty.machine.faults = w.machine.faults ∧
      w.presentIfDirty.caption = w.caption := by
    unfold presentIfDirty
    split <;> exact ⟨rfl, rfl, rfl⟩
  obtain ⟨hhalted, hfaults, hcaption⟩ := hpresent
  refine ⟨?_, ?_, ?_⟩
  · rw [countFrame_eq]
    exact hhalted
  · rw [countFrame_eq]
    exact hfaults
  · intro h
    rw [countFrame_caption (hhalted.trans h)]
    exact hcaption

/-! ### The account of a halt -/

/- A tick: the window before it, and what it finds. -/
structure Turn where
  window : Window
  batch : Batch

/- The machine is halted from the beginning of the tick to its end. -/
def Turn.idle (t : Turn) : Bool :=
  t.window.machine.halted && !t.batch.reloads t.window.cartridgePath

def turns (w : Window) : List Batch → List Turn
  | [] => []
  | b :: rest => ⟨w, b⟩ :: (w.tick b.disk b.events b.now).1.turns rest

/- The pause key has been pressed since the machine was halted. -/
def veiled (turns : List Turn) : Bool :=
  (turns.reverse.takeWhile Turn.idle).any (·.batch.presses pauseKey)

theorem veiled_concat (past : List Turn) (t : Turn) :
    veiled (past ++ [t]) = (t.idle && (t.batch.presses pauseKey || veiled past)) := by
  unfold veiled
  rw [List.reverse_concat, List.takeWhile_cons]
  cases t.idle with
  | false => rfl
  | true => rw [if_pos rfl, List.any_cons, Bool.true_and]

/- The caption of a window, told from its ticks so far. -/
structure Captioned (past : List Turn) (w : Window) : Prop where
  controls : w.controls = {}
  caption : w.machine.halted = true →
    ∃ f, w.machine.faults.getLast? = some f ∧ f.kind.fatal = true ∧
      w.caption = if veiled past then title w.paused else haltedCaption f.kind

theorem answered_idle {w : Window} {b : Batch} (hc : w.controls = {}) (hq : b.quits = false) :
    (w.answered b).machine.halted = Turn.idle ⟨w, b⟩ := by
  unfold Turn.idle
  cases hr : b.reloads w.cartridgePath with
  | true =>
    rw [answered_reloaded hc hq hr]
    simp
  | false =>
    rw [(answered_unloaded hc hq hr).1]
    simp

/-- If the machine is not halted when its frame is due, a halt at the end of the tick is new. -/
theorem tick_namesHalt {w : Window} {b : Batch} (hc : w.controls = {}) (hq : b.quits = false)
    (hidle : Turn.idle ⟨w, b⟩ = false) :
    NamesHalt (w.tick b.disk b.events b.now).1.caption
      (w.tick b.disk b.events b.now).1.machine := by
  have live : (w.answered b).machine.halted = false := (answered_idle hc hq).trans hidle
  intro halted
  have htick := tick_answered hc hq
  cases hf : (w.answered b).runFrame with
  | error e =>
    rw [hf] at htick
    rw [htick] at halted
    exact absurd halted (Bool.eq_false_iff.mp live)
  | ok f =>
    have hnames := runFrame_namesHalt (v := f.1) (e := f.2) live hf
    obtain ⟨hhalted, hfaults, hcaption⟩ := closing_halted f.1 b.now
    rw [hf] at htick
    dsimp only at htick
    rw [htick, hhalted] at halted
    rw [htick, hfaults, hcaption halted]
    exact hnames halted

/-- If the machine is halted all the time, only the pause key can change the caption. -/
theorem tick_idle {w : Window} {b : Batch} (hc : w.controls = {}) (hq : b.quits = false)
    (hidle : Turn.idle ⟨w, b⟩ = true) :
    (w.tick b.disk b.events b.now).1.machine.faults = w.machine.faults ∧
      (w.tick b.disk b.events b.now).1.caption =
        if b.presses pauseKey then title (w.tick b.disk b.events b.now).1.paused
        else w.caption := by
  have halted : (w.answered b).machine.halted = true := (answered_idle hc hq).trans hidle
  have hreloads : b.reloads w.cartridgePath = false := by
    unfold Turn.idle at hidle
    simpa using (Bool.and_eq_true_iff.mp hidle).2
  obtain ⟨-, hfaults, hcaption⟩ := answered_unloaded hc hq hreloads
  have hpaused : (w.answered b).paused = (w.tick b.disk b.events b.now).1.paused := by
    rw [(tick_paused hc hq).2, answered, answer_eq hc hq]
  obtain ⟨e, hrun⟩ := runFrame_halted halted
  obtain ⟨-, hkeptFaults, hkeptCaption⟩ := closing_halted (w.answered b) b.now
  have htick := tick_answered hc hq
  rw [hrun] at htick
  dsimp only at htick
  rw [← hpaused, htick, hkeptFaults, hkeptCaption halted]
  exact ⟨hfaults, hcaption⟩

theorem Captioned.tick {past : List Turn} {w : Window} {b : Batch} (h : Captioned past w)
    (hq : b.quits = false) :
    Captioned (past ++ [⟨w, b⟩]) (w.tick b.disk b.events b.now).1 := by
  obtain ⟨hcontrols, hpaused⟩ := tick_paused h.controls hq
  refine ⟨hcontrols, ?_⟩
  intro halted
  rw [veiled_concat]
  cases hidle : Turn.idle ⟨w, b⟩ with
  | false => exact tick_namesHalt h.controls hq hidle halted
  | true =>
    obtain ⟨hfaults, hcaption⟩ := tick_idle h.controls hq hidle
    have hbefore : w.machine.halted = true := (Bool.and_eq_true_iff.mp hidle).1
    obtain ⟨f, hlast, hfatal, hw⟩ := h.caption hbefore
    refine ⟨f, by rw [hfaults, hlast], hfatal, ?_⟩
    rw [hcaption, hpaused, hw]
    cases b.presses pauseKey with
    | true => simp
    | false => simp

theorem Captioned.ticks {past : List Turn} {w : Window} {batches : List Batch}
    (h : Captioned past w) (hq : ∀ b ∈ batches, b.quits = false) :
    Captioned (past ++ w.turns batches) (w.ticks batches) := by
  induction batches generalizing past w with
  | nil =>
    rw [turns, List.append_nil]
    exact h
  | cons b rest ih =>
    rw [List.forall_mem_cons] at hq
    rw [turns, List.append_cons]
    exact ih (h.tick hq.1) hq.2

theorem title_ne_haltedCaption (paused : Bool) (kind : FaultKind) :
    title paused ≠ haltedCaption kind := by
  cases paused <;> cases kind <;> decide +kernel

end Window

/-- After any ticks that do not quit, if the machine is halted, its last fault is the fatal one, and
the caption names it if and only if the pause key has not been pressed in any tick since the one
that halted the machine. If it has, the caption says whether the window is paused, and nothing else.
-/
theorem halt_caption {v : Window} (fresh : v.Unticked) {batches : List Batch}
    (goesOn : ∀ b ∈ batches, b.quits = false)
    (halted : (v.ticks batches).machine.halted = true) :
    ∃ f, (v.ticks batches).machine.faults.getLast? = some f ∧ f.kind.fatal = true ∧
      ((v.ticks batches).caption = Window.haltedCaption f.kind ↔
        Window.veiled (v.turns batches) = false) ∧
      (Window.veiled (v.turns batches) = true →
        (v.ticks batches).caption = Window.title (v.ticks batches).paused) := by
  obtain ⟨hcontrols, -, hlive⟩ := fresh.atRest
  have hstart : Window.Captioned [] v := by
    refine ⟨hcontrols, ?_⟩
    intro hv
    rw [hlive] at hv
    cases hv
  have hend := hstart.ticks goesOn
  rw [List.nil_append] at hend
  obtain ⟨f, hlast, hfatal, hcaption⟩ := hend.caption halted
  refine ⟨f, hlast, hfatal, ?_⟩
  rw [hcaption]
  cases Window.veiled (v.turns batches) with
  | true => simp [Window.title_ne_haltedCaption]
  | false => simp

namespace Window

/- A cartridge that returns from nowhere, in a window as before. -/
def returnDisk : Disk := { entries := [([[97]], .file [0x00, 0xEE])] }

def returnWindow : Window :=
  fresh ⟨[97]⟩ (.whole 10) (.whole 1)
    ((Machine.powerOn ⟨fun _ => 0, 0⟩ false).place [0x00, 0xEE]) ⟨false, false, false, 0⟩

theorem return_unticked : returnWindow.Unticked := by
  have hbytes : Cartridge.bytes returnDisk ⟨[97]⟩ = .ok [0x00, 0xEE] := rfl
  exact ⟨_, _, _, _, _, _, silent_opened hbytes, .inl rfl⟩

def pauseAfterHalt : List Batch :=
  [⟨returnDisk, [], .whole 1⟩, ⟨returnDisk, [.keyDown pauseKey], .whole 2⟩]

end Window

/-- The machine halts in the first tick; a pause in the second takes the fault from the caption. -/
theorem hidden_halt :
    Window.returnWindow.Unticked ∧ (∀ b ∈ Window.pauseAfterHalt, b.quits = false) ∧
      (Window.returnWindow.ticks Window.pauseAfterHalt).machine.halted = true ∧
      ∀ kind, (Window.returnWindow.ticks Window.pauseAfterHalt).caption ≠
        Window.haltedCaption kind := by
  have hcaption : (Window.returnWindow.ticks Window.pauseAfterHalt).caption =
      Window.title true := by
    decide +kernel
  refine ⟨Window.return_unticked, by decide, by decide +kernel, ?_⟩
  intro kind
  rw [hcaption]
  exact Window.title_ne_haltedCaption true kind

/- The pause is over when the machine halts; the cartridge is gone when the reset key is pressed,
and a second has passed. -/
def Window.resetAfterHalt : List Batch :=
  [⟨returnDisk, [.keyDown pauseKey], .whole 1⟩, ⟨returnDisk, [.keyDown pauseKey], .whole 2⟩,
    ⟨.empty, [.keyDown resetKey, .keyDown 49], .whole 200⟩]

/-- A reset that fails and a new frame rate leave the fault in the caption. -/
theorem shown_halt :
    Window.returnWindow.Unticked ∧ (∀ b ∈ Window.resetAfterHalt, b.quits = false) ∧
      (Window.returnWindow.ticks Window.resetAfterHalt).machine.halted = true ∧
      ∃ f, (Window.returnWindow.ticks Window.resetAfterHalt).machine.faults.getLast? = some f ∧
        f.kind.fatal = true ∧
        (Window.returnWindow.ticks Window.resetAfterHalt).caption =
          Window.haltedCaption f.kind := by
  have hgoesOn : ∀ b ∈ Window.resetAfterHalt, b.quits = false := by decide
  have halted : (Window.returnWindow.ticks Window.resetAfterHalt).machine.halted = true := by
    decide +kernel
  have hveiled : Window.veiled (Window.returnWindow.turns Window.resetAfterHalt) = false := by
    decide +kernel
  obtain ⟨f, hlast, hfatal, hshown, -⟩ := halt_caption Window.return_unticked hgoesOn halted
  exact ⟨Window.return_unticked, hgoesOn, halted, f, hlast, hfatal, hshown.mpr hveiled⟩

end Chip8
