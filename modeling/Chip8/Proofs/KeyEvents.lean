import Mathlib.Data.List.Induction
import Chip8.Proofs.HostLoop

/-!
# Key events

The keypad follows the events of the keyboard: a key is held exactly if it has been pressed and
neither it nor all keys have been let go since. Each keypad key has one key on the keyboard, which
is none of the keys that make requests, so no other event touches it. A request to quit stands for
good.
-/

namespace Chip8

namespace Keyboard

/-! ### One keyboard key for each keypad key -/

def codeOf (key : Fin 16) : Int := ((keyMap.find? fun e => e.2 = key).map (·.1)).getD 0

theorem keypadKey?_eq_some_iff (code : Int) (key : Fin 16) :
    keypadKey? code = some key ↔ code = codeOf key := by
  constructor
  · intro h
    obtain ⟨e, he, rfl⟩ := Option.map_eq_some_iff.mp h
    have hcode : e.1 = code := by simpa using List.find?_some he
    have hall : ∀ e ∈ keyMap, e.1 = codeOf e.2 := by decide
    rw [← hcode]
    exact hall e (List.mem_of_find?_eq_some he)
  · rintro rfl
    have hall : ∀ key, keypadKey? (codeOf key) = some key := by decide
    exact hall key

theorem codeOf_no_request (key : Fin 16) :
    codeOf key ≠ quitKey ∧ codeOf key ≠ pauseKey ∧ codeOf key ≠ resetKey := by
  revert key
  decide

/-! ### The handler of events -/

/- What a window keeps for its keyboard: the requests that stand, and the machine with the keys. -/
structure Handler where
  controls : Controls
  machine : Machine

/- What can be asked of it. -/
inductive Call where
  | event (e : KeyEvent)
  | takePause
  | takeReset
  | releaseAll
  deriving DecidableEq

namespace Handler

def call (h : Handler) : Call → Handler
  | .event e => ⟨requests h.controls [e], presses h.machine [e]⟩
  | .takePause => { h with controls := h.controls.takePause.2 }
  | .takeReset => { h with controls := h.controls.takeReset.2 }
  | .releaseAll => { h with machine := h.machine.releaseKeys }

def onNew (noise : Noise) (coupled : Bool) : Handler := ⟨{}, .powerOn noise coupled⟩

def calls (h : Handler) (list : List Call) : Handler := list.foldl call h

theorem calls_concat (h : Handler) (past : List Call) (c : Call) :
    h.calls (past ++ [c]) = (h.calls past).call c := List.foldl_append

end Handler

/- The calls that let go a key. -/
def Call.Releases (key : Fin 16) (c : Call) : Prop :=
  c = .event (.keyUp (codeOf key)) ∨ c = .event .focusLost ∨ c = .releaseAll

/- The key is pressed at some call, and no later one lets it go. -/
def PressedLast (key : Fin 16) (list : List Call) : Prop :=
  ∃ before after, list = before ++ .event (.keyDown (codeOf key)) :: after ∧
    ∀ c ∈ after, ¬c.Releases key

theorem pressedLast_concat (key : Fin 16) (past : List Call) (c : Call) :
    PressedLast key (past ++ [c]) ↔
      c = .event (.keyDown (codeOf key)) ∨ PressedLast key past ∧ ¬c.Releases key := by
  constructor
  · -- the last call is the press itself, or one of those after it
    rintro ⟨before, after, hcut, hafter⟩
    rcases List.eq_nil_or_concat after with rfl | ⟨rest, last, rfl⟩
    · obtain ⟨-, hlast⟩ := List.append_inj' hcut rfl
      exact .inl (List.singleton_inj.mp hlast)
    · rw [List.concat_eq_append, ← List.cons_append, ← List.append_assoc] at hcut
      obtain ⟨hpast, hlast⟩ := List.append_inj' hcut rfl
      cases List.singleton_inj.mp hlast
      refine .inr ⟨⟨before, rest, hpast, ?_⟩, hafter c (by simp)⟩
      intro d hd
      exact hafter d (by simp [hd])
  · rintro (rfl | ⟨⟨before, after, rfl, hafter⟩, hc⟩)
    · exact ⟨past, [], rfl, nofun⟩
    · refine ⟨before, after ++ [c], by simp, ?_⟩
      intro d hd
      rcases List.mem_append.mp hd with hd | hd
      · exact hafter d hd
      · rw [List.mem_singleton] at hd
        rw [hd]
        exact hc

/-! ### What one call does -/

theorem isDown_code (k : Keypad) (code : Int) (down : Bool) (key : Fin 16) :
    (match keypadKey? code with
      | some other => k.press other down
      | none => k).isDown key = if code = codeOf key then down else k.isDown key := by
  cases hcode : keypadKey? code with
  | none =>
    have hne : code ≠ codeOf key := by
      rw [ne_eq, ← keypadKey?_eq_some_iff, hcode]
      nofun
    rw [if_neg hne]
  | some other =>
    have hsame : other = key ↔ code = codeOf key := by
      rw [← keypadKey?_eq_some_iff, hcode, Option.some.injEq]
    simp only [Keypad.isDown_press, hsame]

theorem isDown_event (e : KeyEvent) (k : Keypad) (key : Fin 16) :
    (e.press k).isDown key = true ↔
      e = .keyDown (codeOf key) ∨
        k.isDown key = true ∧ e ≠ .keyUp (codeOf key) ∧ e ≠ .focusLost := by
  cases e with
  | keyDown code =>
    have hdown : (KeyEvent.press (.keyDown code) k).isDown key = _ := isDown_code k code true key
    rw [hdown]
    by_cases hcode : code = codeOf key
    · simp [hcode]
    · simp [hcode]
  | keyUp code =>
    have hup : (KeyEvent.press (.keyUp code) k).isDown key = _ := isDown_code k code false key
    rw [hup]
    by_cases hcode : code = codeOf key
    · simp [hcode]
    · simp [hcode]
  | focusLost => simp [KeyEvent.press, Keypad.clearAll_eq, Keypad.isDown_released]
  | closed => simp [KeyEvent.press]
  | other => simp [KeyEvent.press]

namespace Handler

theorem isDown_call (h : Handler) (c : Call) (key : Fin 16) :
    (h.call c).machine.keypad.isDown key = true ↔
      c = .event (.keyDown (codeOf key)) ∨
        h.machine.keypad.isDown key = true ∧ ¬c.Releases key := by
  unfold Call.Releases
  cases c with
  | event e =>
    have hkeypad : (h.call (.event e)).machine.keypad = e.press h.machine.keypad := rfl
    rw [hkeypad, isDown_event]
    simp
  | takePause => simp [call]
  | takeReset => simp [call]
  | releaseAll => simp [call, Machine.releaseKeys, Keypad.clearAll_eq, Keypad.isDown_released]

theorem quit_call (h : Handler) (c : Call) :
    (h.call c).controls.quit = true ↔
      h.controls.quit = true ∨ c = .event .closed ∨ c = .event (.keyDown quitKey) := by
  cases c with
  | event e =>
    have hrequests := congrArg Controls.quit (requests_eq h.controls [e])
    rw [call, hrequests]
    simp only [Bool.or_eq_true, decide_eq_true_eq, List.mem_singleton, Call.event.injEq]
    rw [@eq_comm _ e .closed, @eq_comm _ e (.keyDown quitKey)]
  | takePause => simp [call, Controls.takePause]
  | takeReset => simp [call, Controls.takeReset]
  | releaseAll => simp [call]

/-! ### What all calls do -/

theorem isDown_calls {h : Handler} (released : ∀ key, h.machine.keypad.isDown key = false)
    (list : List Call) (key : Fin 16) :
    (h.calls list).machine.keypad.isDown key = true ↔ PressedLast key list := by
  induction list using List.reverseRecOn with
  | nil => simp [calls, released, PressedLast]
  | append_singleton past c ih => rw [calls_concat, isDown_call, ih, pressedLast_concat]

theorem quit_calls (h : Handler) (list : List Call) :
    (h.calls list).controls.quit = true ↔
      h.controls.quit = true ∨ .event .closed ∈ list ∨ .event (.keyDown quitKey) ∈ list := by
  induction list using List.reverseRecOn with
  | nil => simp [calls]
  | append_singleton past c ih =>
    rw [calls_concat, quit_call, ih]
    grind

/-- Events of other keys, and other events than the loss of the focus, do not reach the machine. -/
theorem machine_event {e : KeyEvent} (hfocus : e ≠ .focusLost)
    (hkeys : ∀ key, e ≠ .keyDown (codeOf key) ∧ e ≠ .keyUp (codeOf key)) (h : Handler) :
    (h.call (.event e)).machine = h.machine := by
  have hnone {code : Int} (hcode : ∀ key, code ≠ codeOf key) : keypadKey? code = none := by
    rw [Option.eq_none_iff_forall_ne_some]
    intro key
    rw [ne_eq, keypadKey?_eq_some_iff]
    exact hcode key
  have hpress : e.press h.machine.keypad = h.machine.keypad := by
    cases e with
    | keyDown code =>
      have hcode : keypadKey? code = none := hnone (by simpa using fun key => (hkeys key).1)
      simp [KeyEvent.press, hcode]
    | keyUp code =>
      have hcode : keypadKey? code = none := hnone (by simpa using fun key => (hkeys key).2)
      simp [KeyEvent.press, hcode]
    | focusLost => exact absurd rfl hfocus
    | closed => rfl
    | other => rfl
  have hmachine : (h.call (.event e)).machine =
      { h.machine with keypad := e.press h.machine.keypad } := rfl
  rw [hmachine, hpress]

end Handler

/-- Let a handler on a new machine be asked for anything, in any order. Every keypad key has exactly
one key on the keyboard, which makes no request; it is held at the end if and only if there is a
press of that key after which neither it is let go, nor the focus lost, nor all keys let go. A
request to quit stands if and only if the window has been closed or Escape pressed, and it stands
for good. No event changes a machine but those of the sixteen keys and the loss of the focus. -/
theorem keys_follow (noise : Noise) (coupled : Bool) (list : List Call) :
    (∀ key code, keypadKey? code = some key ↔ code = codeOf key) ∧
    (∀ key, codeOf key ≠ quitKey ∧ codeOf key ≠ pauseKey ∧ codeOf key ≠ resetKey) ∧
    (∀ key, ((Handler.onNew noise coupled).calls list).machine.keypad.isDown key = true ↔
      PressedLast key list) ∧
    (((Handler.onNew noise coupled).calls list).controls.quit = true ↔
      .event .closed ∈ list ∨ .event (.keyDown quitKey) ∈ list) ∧
    (∀ later, ((Handler.onNew noise coupled).calls list).controls.quit = true →
      ((Handler.onNew noise coupled).calls (list ++ later)).controls.quit = true) ∧
    ∀ (h : Handler) (e : KeyEvent), e ≠ .focusLost →
      (∀ key, e ≠ .keyDown (codeOf key) ∧ e ≠ .keyUp (codeOf key)) →
      (h.call (.event e)).machine = h.machine := by
  have hquit (more : List Call) :
      ((Handler.onNew noise coupled).calls more).controls.quit = true ↔
        .event .closed ∈ more ∨ .event (.keyDown quitKey) ∈ more := by
    have hstart : (Handler.onNew noise coupled).controls.quit = false := rfl
    rw [Handler.quit_calls, hstart]
    simp
  refine ⟨?_, codeOf_no_request, ?_, hquit list, ?_, ?_⟩
  · exact fun key code => keypadKey?_eq_some_iff code key
  · exact Handler.isDown_calls (Machine.isDown_powerOn noise coupled) list
  · intro later h
    rw [hquit] at h ⊢
    rcases h with h | h
    · exact .inl (List.mem_append_left later h)
    · exact .inr (List.mem_append_left later h)
  · intro h e hfocus hkeys
    exact Handler.machine_event hfocus hkeys h

end Keyboard

end Chip8
