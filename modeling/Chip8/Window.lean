import Chip8.Cartridge
import Chip8.Crash
import Chip8.Decimal.Fixed
import Chip8.Keyboard
import Chip8.Picture

/-!
# The window

A window owns a machine, a beeper and the requests of the keyboard, and repeats one tick sixty times
a second: take the events, quit if asked, pause or resume, reset if asked, run a frame unless
paused, show the picture if it was drawn on, wait, and count frames. The machine never learns of
captions, sounds or frame counts. What the mixer is asked and what is logged are returned beside the
window.

Time is counted in sixty-fourths of a second, whole ones or parts of them.
-/

namespace Chip8

structure Effects where
  calls : List MixerCall := []
  records : List Record := []

namespace Effects

def append (a b : Effects) : Effects := ⟨a.calls ++ b.calls, a.records ++ b.records⟩

instance : Append Effects := ⟨append⟩

end Effects

structure WindowSettings where
  cartridgePath : Text
  scale : Value := .int 10
  cpuHz : Value := .int Layout.defaultCpuHz
  legacyTiming : Bool := false
  audio : Bool := true
  beepFile : Option SoundFile := none

inductive OpeningError where
  | operand (e : OperandError)
  | cartridge (e : CartridgeError)
  | beeper (e : ToneDevice.SetupError)

def OpeningError.message : OpeningError → Text
  | operand e => e.message
  | cartridge e => e.message
  | beeper e => e.message

structure Window where
  cartridgePath : Text
  scale : Quantity
  cyclesPerFrame : Quantity
  machine : Machine
  beeper : ToneDevice
  controls : Controls
  paused : Bool
  running : Bool
  caption : String
  shown : Frame
  frameCount : Nat
  since : Quantity

namespace Window

def clampScale : Quantity → Quantity
  | .whole n => .whole (max 1 (min 20 n))
  | .real x => if x < 20.0 then (if 1.0 < x then .real x else .whole 1) else .whole 20

def scaleOf (v : Value) : Except OperandError Quantity :=
  match v.quantity? with
  | some q => .ok (clampScale q)
  | none => .error (.notComparable "<" v.kindName "int")

/-- Instructions in a sixtieth of a second, at least one. A floating-point rate leads to a
floating-point number, unless that is not above one. -/
def cyclesFor : Quantity → Quantity
  | .whole n => .whole (max 1 (n.fdiv Layout.timerHz))
  | .real x =>
    match Double.floorQuotient? x Layout.timerHz with
    | none => .whole 1
    | some cycles => if 1.0 < cycles then .real cycles else .whole 1

def cyclesOf (v : Value) : Except OperandError Quantity :=
  match v.quantity? with
  | some q => .ok (cyclesFor q)
  | none => .error (.unsupported "//" v.kindName "int")

def clockHz : Nat := 64

def title (paused : Bool) : String := if paused then "chip8emu  [paused]" else "chip8emu"

def haltedCaption (kind : FaultKind) : String := "chip8emu  [halted: " ++ kind.name ++ "]"

def rateCaption (paused : Bool) (rate : Float) : String :=
  title paused ++ "  [" ++ Decimal.fixedText 1 rate ++ " fps]"

def scaled (w : Window) (n : Nat) : Int :=
  match w.scale with
  | .whole k => n * k
  | .real x => (Quantity.real (Float.ofNat n * x)).wholePart

def screenWidth (w : Window) : Int := w.scaled Renderer.width

def screenHeight (w : Window) : Int := w.scaled Renderer.height

def openedRecord (w : Window) : Record :=
  ⟨.info, .window,
    "Window: " ++ toString w.screenWidth ++ "x" ++ toString w.screenHeight ++ " display (scale="
      ++ toString w.scale.wholePart ++ ", " ++ toString w.cyclesPerFrame.wholePart
      ++ " instructions/frame, "
      ++ (if w.machine.coupled then "per-step" else "60 Hz") ++ " timers)"⟩

def fresh (path : Text) (scale cycles : Quantity) (machine : Machine) (beeper : ToneDevice) :
    Window where
  cartridgePath := path
  scale := scale
  cyclesPerFrame := cycles
  machine := machine
  beeper := beeper
  controls := {}
  paused := false
  running := false
  caption := title false
  shown := Frame.dark
  frameCount := 0
  since := .whole 0

/-- A new window once its scale and its pace are known; a cartridge that cannot be used is found out
before anything is opened. -/
def createWith (s : WindowSettings) (scale cycles : Quantity) (disk : Disk) (mixer : Mixer)
    (noise : Noise) (kept : Bool) : Effects × Except OpeningError Window :=
  let b := Cartridge.boot disk s.cartridgePath noise s.legacyTiming
  match b.value with
  | .error e => (⟨[], b.records⟩, .error (.cartridge e))
  | .ok machine =>
    let t := ToneDevice.start mixer disk s.audio kept s.beepFile
    match t.device with
    | .error e => (⟨t.calls, b.records ++ t.records⟩, .error (.beeper e))
    | .ok beeper =>
      let w := fresh s.cartridgePath scale cycles machine beeper
      (⟨t.calls, b.records ++ t.records ++ [Renderer.created, w.openedRecord]⟩, .ok w)

/-- A new window; its scale is looked at first, then its rate, then its cartridge. `kept` says
whether records are kept. -/
def create (s : WindowSettings) (disk : Disk) (mixer : Mixer) (noise : Noise) (kept : Bool) :
    Effects × Except OpeningError Window :=
  match scaleOf s.scale, cyclesOf s.cpuHz with
  | .error e, _ => ({}, .error (.operand e))
  | .ok _, .error e => ({}, .error (.operand e))
  | .ok scale, .ok cycles => createWith s scale cycles disk mixer noise kept

def setPaused (w : Window) (paused : Bool) : Window :=
  { w with paused := paused, caption := title paused }

def poll (w : Window) (events : List KeyEvent) : Window :=
  { w with controls := Keyboard.requests w.controls events,
           machine := Keyboard.presses w.machine events }

def answerPause (w : Window) : Window :=
  let r := w.controls.takePause
  let w' := { w with controls := r.2 }
  if r.1 then w'.setPaused (!w.paused) else w'

def answerReset (w : Window) (disk : Disk) : Window × Effects :=
  let r := w.controls.takeReset
  let w' := { w with controls := r.2 }
  if r.1 then
    let l := Cartridge.reload disk w.cartridgePath w.machine
    let w' := { w' with machine := l.value.1 }
    match l.value.2 with
    | none => ({ w' with caption := title w.paused }, ⟨[], l.records⟩)
    | some e =>
      (w', ⟨[], l.records ++
        [⟨.error, .window, "Reset failed, keeping current state: " ++ e.message⟩]⟩)
  else (w', {})

/-- What a signal of the machine does to the window: a sound is played, a halt is shown. -/
def react (w : Window) : Signal → Window × List MixerCall
  | .tone =>
    let r := w.beeper.play
    ({ w with beeper := r.1 }, r.2)
  | .fault f => (if f.kind.fatal then { w with caption := haltedCaption f.kind } else w, [])
  | .fetched _ => (w, [])
  | .loaded _ => (w, [])

def reactAll (w : Window) : List Signal → Window × List MixerCall
  | [] => (w, [])
  | s :: rest =>
    let a := w.react s
    let b := a.1.reactAll rest
    (b.1, a.2 ++ b.2)

/-- One frame, unless paused; there is none if the number of instructions is no integer. -/
def runFrame (w : Window) : Except OperandError (Window × Effects) :=
  if w.paused then .ok (w, {})
  else
    match w.machine.frameOf (.ofQuantity w.cyclesPerFrame) with
    | .error e => .error e
    | .ok r =>
      let a := { w with machine := r.machine }.reactAll r.signals
      .ok (a.1, ⟨a.2, Signal.records r.signals⟩)

def present (w : Window) : Window :=
  let r := w.machine.consume
  { w with machine := r.1, shown := r.2 }

def presentIfDirty (w : Window) : Window := if w.machine.display.dirty then w.present else w

/-- How far a tick gets: to the wait at its end, or it is ended by a request to quit or by a crash.
-/
inductive Progress where
  | waits
  | quits
  | fails (c : Crash)
  deriving DecidableEq, Repr

def advance (w : Window) (disk : Disk) (events : List KeyEvent) : Window × Effects × Progress :=
  let w := w.poll events
  if w.controls.quit then ({ w with running := false }, {}, .quits)
  else
    let r := w.answerPause.answerReset disk
    match r.1.runFrame with
    | .error e => (r.1, r.2, .fails (.operand e))
    | .ok f => (f.1.presentIfDirty, r.2 ++ f.2, .waits)

def seconds? (ticks : Quantity) : Option Float :=
  ticks.toDouble?.map fun x => x / Float.ofNat clockHz

/-- The clock after a wait, which must be a number that can be added to it. -/
def later (now : Quantity) (wait : Value) : Except Crash Quantity :=
  match wait.quantity? with
  | none => .error (.operand (.unsupported "+=" (Value.ofQuantity now).kindName wait.kindName))
  | some q =>
    match now.add? q with
    | none => .error .clock
    | some t => .ok t

/-- The window with a number of frames counted, at a time and so long after the last rate. Once a
second the rate is worked out and, unless the machine is halted, shown. -/
def showRate (w : Window) (count : Nat) (now : Quantity) (elapsed : Float) : Window :=
  if 1.0 ≤ elapsed then
    { w with frameCount := 0, since := now,
             caption := if w.machine.halted then w.caption
               else rateCaption w.paused (Float.ofNat count / elapsed) }
  else { w with frameCount := count }

/-- A frame counted after the wait; a clock that cannot be read is a crash. -/
def countFrame (w : Window) (now : Quantity) : Window × Option Crash :=
  let count := w.frameCount + 1
  match seconds? now with
  | none => ({ w with frameCount := count }, some .clock)
  | some t => (w.showRate count now (t - (seconds? w.since).getD 0.0), none)

def tick (w : Window) (disk : Disk) (events : List KeyEvent) (now : Quantity) :
    Window × Effects × Option Crash :=
  match w.advance disk events with
  | (w', e, .waits) =>
    let c := w'.countFrame now
    (c.1, e, c.2)
  | (w', e, .quits) => (w', e, none)
  | (w', e, .fails c) => (w', e, some c)

def startClock (w : Window) (now : Quantity) : Window := { w with since := now }

end Window

end Chip8
