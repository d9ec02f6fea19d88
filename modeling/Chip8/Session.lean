import Chip8.Disk.Change
import Chip8.Window

/-!
# Sessions

A session is a window that ticks until it is closed, interrupted, or fails. What happens outside is
a list of beats, one for each tick: the events that wait at its start, and what happens while the
window waits at its end. When the beats run out the window is closed by its user.
-/

namespace Chip8

inductive Ending where
  | closed
  | interrupted
  | crashed (c : Crash)
  deriving DecidableEq, Repr

inductive Happening where
  | change (c : DiskChange)
  | ending (e : Ending)
  deriving DecidableEq, Repr

/-- The disk after what happened, and how that ended the session, if it did: nothing happens after
the end, and a change that fails is one. -/
def Happening.follow (disk : Disk) : List Happening → Disk × Option Ending
  | [] => (disk, none)
  | .ending e :: _ => (disk, some e)
  | .change c :: rest =>
    match disk.change c with
    | (disk', some e) => (disk', some (.crashed (.disk e)))
    | (disk', none) => follow disk' rest

structure Beat where
  events : List KeyEvent := []
  wait : Value := .int 0
  happenings : List Happening := []

namespace Beat

/-- Beats at whose beginning some events already wait. -/
def precede (events : List KeyEvent) : List Beat → List Beat
  | [] => []
  | b :: rest => { b with events := events ++ b.events } :: rest

end Beat

/-- A window seen while it waits, and the mixer calls since it was last seen. -/
structure Sight where
  window : Window
  calls : List MixerCall

structure Session where
  sights : List Sight
  window : Window
  ending : Ending
  calls : List MixerCall
  records : List Record
  tornDown : Bool := true

namespace Session

def note (text : Text) : Record := ⟨.info, .window, text⟩

def finish (w : Window) (ending : Ending) (e : Effects) : Session :=
  let s := w.beeper.shutdown
  let farewell := match ending with
    | .interrupted => [note "Interrupted by user", note "Shutting down"]
    | .closed => [note "Shutting down"]
    | .crashed _ => [note "Shutting down"]
  { sights := [], window := { w with beeper := s.1 }, ending := ending, calls := e.calls ++ s.2,
    records := e.records ++ farewell }

def seenBefore (s : Session) (first : Sight) (records : List Record) : Session :=
  { s with sights := first :: s.sights, records := records ++ s.records }

def loop (w : Window) (disk : Disk) (now : Quantity) : List Beat → Session
  | [] =>
    let a := w.advance disk [.closed]
    finish a.1 .closed a.2.1
  | b :: rest =>
    match w.advance disk b.events with
    | (w', e, .quits) => finish w' .closed e
    | (w', e, .fails c) => finish w' (.crashed c) e
    | (w', e, .waits) =>
      let s := match Window.later now b.wait, Happening.follow disk b.happenings with
        | .error c, _ => finish w' (.crashed c) {}
        | .ok _, (_, some ending) => finish w' ending {}
        | .ok now, (disk', none) =>
          match w'.countFrame now with
          | (w', none) => loop w' disk' now rest
          | (w', some c) => finish w' (.crashed c) {}
      s.seenBefore ⟨w', e.calls⟩ e.records

/-- A session from its beginning: the clock is read, and the picture is shown once before the first
tick. -/
def run (w : Window) (disk : Disk) (now : Quantity) (beats : List Beat) : Session :=
  match Window.seconds? now with
  | none =>
    { sights := [], window := { w with running := true }, ending := .crashed .clock, calls := [],
      records := [], tornDown := false }
  | some _ =>
    let w := { w with running := true, since := now, frameCount := 0 }.present
    let s := loop w disk now beats
    { s with records := note "Entering main loop" :: s.records }

end Session

/-- A window whose ticks are asked for one by one, on a clock that is moved by hand. -/
structure Stage where
  window : Window
  disk : Disk
  now : Quantity
  waiting : List KeyEvent := []

namespace Stage

/-- Some events come, time passes, and the window ticks. If the clock cannot go on there is no tick,
and the events wait for the next one. -/
def tick (s : Stage) (events : List KeyEvent) (wait : Value) :
    Stage × Effects × Option Crash :=
  let events := s.waiting ++ events
  match Window.later s.now wait with
  | .error c => ({ s with waiting := events }, {}, some c)
  | .ok now =>
    let t := s.window.tick s.disk events now
    ({ s with window := t.1, now := now, waiting := [] }, t.2)

def change (s : Stage) (c : DiskChange) : Stage × Option Crash :=
  let r := s.disk.change c
  ({ s with disk := r.1 }, r.2.map .disk)

def setPaused (s : Stage) (paused : Bool) : Stage :=
  { s with window := s.window.setPaused paused }

def run (s : Stage) (beats : List Beat) : Session :=
  Session.run s.window s.disk s.now (Beat.precede s.waiting beats)

end Stage

end Chip8
