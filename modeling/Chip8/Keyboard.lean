import Chip8.Machine.Run

/-!
# Keyboard

The left-hand block of a keyboard stands in for the keypad. Three more keys, and closing the window,
make requests: quit, pause and reset. A pause or reset request stands until it is taken; the request
to quit stands for good. When the window loses the focus all keys are let go, because their releases
will not be seen.

```text
keyboard      keypad
1 2 3 4       1 2 3 C
Q W E R       4 5 6 D
A S D F       7 8 9 E
Z X C V       A 0 B F
```
-/

namespace Chip8

inductive KeyEvent where
  | keyDown (code : Int)
  | keyUp (code : Int)
  | closed
  | focusLost
  | other
  deriving DecidableEq, Repr

namespace Keyboard

/-- The keyboard code of each keypad key, by ascending code. -/
def keyMap : List (Int × Fin 16) :=
  [(49, 0x1), (50, 0x2), (51, 0x3), (52, 0xC), (97, 0x7), (99, 0xB), (100, 0x9), (101, 0x6),
   (102, 0xE), (113, 0x4), (114, 0xD), (115, 0x8), (118, 0xF), (119, 0x5), (120, 0x0), (122, 0xA)]

def keypadKey? (code : Int) : Option (Fin 16) := (keyMap.find? fun e => e.1 = code).map (·.2)

-- Escape, the letter `p` and the first function key.
def quitKey : Int := 27

def pauseKey : Int := 112

def resetKey : Int := 1073741882

end Keyboard

structure Controls where
  quit : Bool := false
  pause : Bool := false
  reset : Bool := false
  deriving DecidableEq, Repr

namespace KeyEvent

open Keyboard

def press (e : KeyEvent) (k : Keypad) : Keypad :=
  match e with
  | keyDown code => match keypadKey? code with
    | some key => k.press key true
    | none => k
  | keyUp code => match keypadKey? code with
    | some key => k.press key false
    | none => k
  | focusLost => k.clearAll
  | closed => k
  | other => k

def request (e : KeyEvent) (c : Controls) : Controls :=
  match e with
  | closed => { c with quit := true }
  | keyDown code =>
    if code = quitKey then { c with quit := true }
    else if code = pauseKey then { c with pause := true }
    else if code = resetKey then { c with reset := true }
    else c
  | _ => c

end KeyEvent

namespace Controls

def takePause (c : Controls) : Bool × Controls := (c.pause, { c with pause := false })

def takeReset (c : Controls) : Bool × Controls := (c.reset, { c with reset := false })

end Controls

namespace Keyboard

def requests (c : Controls) (events : List KeyEvent) : Controls :=
  events.foldl (fun c e => e.request c) c

def presses (m : Machine) (events : List KeyEvent) : Machine :=
  { m with keypad := events.foldl (fun k e => e.press k) m.keypad }

end Keyboard

end Chip8
