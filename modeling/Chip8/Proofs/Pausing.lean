import Mathlib.Algebra.Ring.Parity
import Chip8.Proofs.HostLoop

/-!
# Pausing

Between two ticks a window keeps one request to pause, however often the key has been pressed. So
the presses of a batch count once: a window is paused exactly if the number of batches with a press
is odd, and presses that come second or later in their batch are lost.
-/

namespace Chip8

open Keyboard (pauseKey)

namespace Window

/-! ### Ticks that do not quit -/

/- The window when its requests have been answered and no frame has been run yet. -/
def answered (w : Window) (b : Batch) : Window :=
  ((w.poll b.events).answerPause.answerReset b.disk).1

/- Ticks for one batch after the other, whatever becomes of each. -/
def ticks (w : Window) : List Batch → Window
  | [] => w
  | b :: rest => (w.tick b.disk b.events b.now).1.ticks rest

/-- A frame that cannot be run ends the tick; otherwise the picture is shown and the frame counted.
-/
theorem tick_answered {w : Window} {b : Batch} (hc : w.controls = {}) (hq : b.quits = false) :
    (w.tick b.disk b.events b.now).1 =
      match (w.answered b).runFrame with
      | .ok f => (f.1.presentIfDirty.countFrame b.now).1
      | .error _ => w.answered b := by
  rw [tick_fst, advance_eq hc hq, answered]
  cases ((w.poll b.events).answerPause.answerReset b.disk).1.runFrame with
  | ok f => rfl
  | error e => rfl

theorem tick_paused {w : Window} {b : Batch} (hc : w.controls = {}) (hq : b.quits = false) :
    (w.tick b.disk b.events b.now).1.controls = {} ∧
      (w.tick b.disk b.events b.now).1.paused = (w.paused != b.presses pauseKey) := by
  have hanswer : w.answered b = _ := answer_eq hc hq
  have hcontrols : (w.answered b).controls = {} := by
    rw [hanswer]
    exact hc
  have hpaused : (w.answered b).paused = (w.paused != b.presses pauseKey) := by rw [hanswer]
  rw [tick_answered hc hq]
  cases hf : (w.answered b).runFrame with
  | error e => exact ⟨hcontrols, hpaused⟩
  | ok f =>
    have hrun := runFrame_eq (v := f.1) (e := f.2) hf
    dsimp only
    rw [countFrame_eq, presentIfDirty_eq, hrun]
    exact ⟨hcontrols, hpaused⟩

theorem ticks_paused {w : Window} {batches : List Batch} (hc : w.controls = {})
    (hq : ∀ b ∈ batches, b.quits = false) :
    (w.ticks batches).paused =
      (w.paused != decide (Odd (batches.countP (·.presses pauseKey)))) := by
  induction batches generalizing w with
  | nil => simp [ticks]
  | cons b rest ih =>
    rw [List.forall_mem_cons] at hq
    obtain ⟨hcontrols, hpaused⟩ := tick_paused hc hq.1
    rw [ticks, ih hcontrols hq.2, hpaused, List.countP_cons]
    cases b.presses pauseKey with
    | false => simp
    | true =>
      rw [if_pos rfl, decide_eq_decide.mpr Nat.odd_add_one, decide_not]
      cases w.paused with
      | false => simp
      | true => simp

/- A window that has been opened but has not ticked, in a session or not. -/
def Unticked (v : Window) : Prop :=
  ∃ s disk mixer noise kept w, (create s disk mixer noise kept).2 = .ok w ∧
    (v = w ∨ ∃ now, v = w.started now)

theorem Unticked.atRest {v : Window} (h : v.Unticked) :
    v.controls = {} ∧ v.paused = false ∧ v.machine.halted = false := by
  obtain ⟨s, disk, mixer, noise, kept, w, hopen, hv⟩ := h
  obtain ⟨scale, cycles, m, beeper, -, hboot, rfl⟩ := create_ok hopen
  have hlive : m.halted = false := by
    obtain ⟨data, rfl⟩ := Cartridge.boot_ok hboot
    rfl
  rcases hv with rfl | ⟨now, rfl⟩
  · exact ⟨rfl, rfl, hlive⟩
  · exact ⟨rfl, rfl, hlive⟩

theorem sketch_unticked : sketchWindow.Unticked :=
  ⟨_, _, _, _, _, _, sketch_opened, .inl rfl⟩

end Window

/-! ### Presses and batches -/

def Batch.pressCount (b : Batch) (code : Int) : Nat := b.events.count (.keyDown code)

def pressTotal (code : Int) (batches : List Batch) : Nat :=
  (batches.map (·.pressCount code)).sum

/- The presses that are not the first of their batch. -/
def lostPresses (code : Int) (batches : List Batch) : Nat :=
  (batches.map fun b => b.pressCount code - 1).sum

theorem Batch.presses_iff (b : Batch) (code : Int) :
    b.presses code = true ↔ 0 < b.pressCount code := by
  rw [presses, decide_eq_true_eq, pressCount, List.count_pos_iff]

theorem pressTotal_eq (code : Int) (batches : List Batch) :
    pressTotal code batches =
      batches.countP (·.presses code) + lostPresses code batches := by
  induction batches with
  | nil => rfl
  | cons b rest ih =>
    have hfirst : (if b.presses code = true then 1 else 0) = min 1 (b.pressCount code) := by
      have hpos := b.presses_iff code
      split
      · rename_i hp
        have hcount := hpos.mp hp
        omega
      · rename_i hp
        have hcount := mt hpos.mpr hp
        omega
    simp only [pressTotal, lostPresses, List.map_cons, List.sum_cons, List.countP_cons] at ih ⊢
    omega

/-- A window is paused after its ticks if and only if the number of batches with a press of the
pause key is odd. That is the parity of all presses if and only if an even number of them came
second or later in their batches. -/
theorem pause_counts {v : Window} (fresh : v.Unticked) {batches : List Batch}
    (goesOn : ∀ b ∈ batches, b.quits = false) :
    ((v.ticks batches).paused = true ↔ Odd (batches.countP (·.presses pauseKey))) ∧
      (((v.ticks batches).paused = true ↔ Odd (pressTotal pauseKey batches)) ↔
        Even (lostPresses pauseKey batches)) := by
  obtain ⟨hcontrols, hpaused, -⟩ := fresh.atRest
  have hcount : (v.ticks batches).paused = true ↔ Odd (batches.countP (·.presses pauseKey)) := by
    rw [Window.ticks_paused hcontrols goesOn, hpaused]
    simp
  refine ⟨hcount, ?_⟩
  rw [hcount, pressTotal_eq, Nat.odd_add]
  by_cases hodd : Odd (batches.countP (·.presses pauseKey))
  · simp [hodd]
  · simp [hodd]

def Window.doublePress : List Batch :=
  [⟨sketchDisk, [.keyDown pauseKey, .keyDown pauseKey], .whole 1⟩]

/-- Two presses in one batch do not undo each other: they pause the window. -/
theorem lost_press :
    Window.sketchWindow.Unticked ∧ (∀ b ∈ Window.doublePress, b.quits = false) ∧
      ¬((Window.sketchWindow.ticks Window.doublePress).paused = true ↔
        Odd (pressTotal pauseKey Window.doublePress)) := by
  have hgoesOn : ∀ b ∈ Window.doublePress, b.quits = false := by decide
  refine ⟨Window.sketch_unticked, hgoesOn, ?_⟩
  rw [Window.ticks_paused rfl hgoesOn]
  decide

def Window.spreadPresses : List Batch :=
  [⟨sketchDisk, [.keyDown pauseKey, .keyUp pauseKey, .keyDown 49], .whole 1⟩,
    ⟨.empty, [.keyDown pauseKey, .focusLost, .keyDown pauseKey, .keyDown pauseKey], .whole 2⟩,
    ⟨sketchDisk, [], .whole 3⟩,
    ⟨sketchDisk, [.keyDown Keyboard.resetKey, .keyDown pauseKey], .whole 4⟩]

/-- Five presses pause the window, since two of the three that share a batch are lost. -/
theorem five_presses :
    Window.sketchWindow.Unticked ∧ (∀ b ∈ Window.spreadPresses, b.quits = false) ∧
      pressTotal pauseKey Window.spreadPresses = 5 ∧
      (Window.sketchWindow.ticks Window.spreadPresses).paused = true := by
  have hgoesOn : ∀ b ∈ Window.spreadPresses, b.quits = false := by decide
  obtain ⟨-, hparity⟩ := pause_counts Window.sketch_unticked hgoesOn
  have hlost : Even (lostPresses pauseKey Window.spreadPresses) := by decide
  have hodd : Odd (pressTotal pauseKey Window.spreadPresses) := by decide
  exact ⟨Window.sketch_unticked, hgoesOn, by decide, (hparity.mpr hlost).mpr hodd⟩

end Chip8
