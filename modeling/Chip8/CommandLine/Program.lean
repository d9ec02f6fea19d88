import Chip8.CommandLine.Help
import Chip8.CommandLine.Report
import Chip8.Session

/-!
# The program

What the program does with its arguments: explain itself, report on a cartridge, run a machine
without a window, or play in a window. The outside world is a value: the disk, the homes of users,
the random bytes, the mixer, and what happens during the session.
-/

namespace Chip8.CommandLine

structure World where
  disk : Disk
  homes : Homes
  noise : Nat → UInt8
  mixer : Mixer := {}
  beats : List Beat := []

inductive Notice where
  | record (r : Record)
  | text (t : Text)

namespace Notice

/-- A notice as it is printed; records carry a time stamp. -/
def render (stamp : String) : Notice → Text
  | record r => stamp ++ " [" ++ r.level.name ++ "] " ++ r.source.name ++ ": " ++ r.text ++ "\n"
  | text t => t

end Notice

structure Outcome where
  exit : Nat
  out : Text := ""
  notices : List Notice := []
  sights : List Sight := []
  calls : List MixerCall := []

def Outcome.err (o : Outcome) (stamp : String) : Text :=
  Text.join "" (o.notices.map (Notice.render stamp))

def threshold (verbosity : Nat) : Level :=
  if 2 ≤ verbosity then .debug else if 1 ≤ verbosity then .info else .warning

def shown (level : Level) (records : List Record) : List Notice :=
  (records.filter (Record.shownAt level)).map .record

def complaint (message : Text) : Notice := .text ("Error: " ++ message ++ "\n")

def failure (notices : List Notice) (message : Text) : Outcome :=
  { exit := 1, notices := notices ++ [complaint message] }

def runInfo (disk : Disk) (path : Text) (level : Level) : Outcome :=
  let f := Cartridge.facts disk path
  match f.value with
  | .error e => failure (shown level f.records) e.message
  | .ok facts =>
    let l := Cartridge.disassembly disk path
    let notices := shown level (f.records ++ l.records)
    match l.value with
    | .error e => failure notices e.message
    | .ok lines => { exit := 0, out := Text.unlines (infoLines facts lines), notices := notices }

def debugRun (m : Machine) (steps : Int) : Machine.Run × Nat :=
  let r := m.steps steps.toNat
  (r, if r.machine.halted then 1 else 0)

def runDebug (world : World) (path : Text) (steps : Given Int) (level : Level) :
    Except Crash Outcome :=
  let b := Cartridge.boot world.disk path (Noise.fresh world.noise) true
  match b.value, steps.toValue.count with
  | .error e, _ => .ok (failure (shown level b.records) e.message)
  | .ok _, .error e => .error (.operand e)
  | .ok m, .ok steps =>
    let r := debugRun m steps
    let lines := debugLines r.1.machine r.1.executed steps
    .ok { exit := r.2, out := Text.unlines (lines.map Text.ofString),
          notices := shown level (b.records ++ Signal.records r.1.signals) }

def note (level : Level) (text : Text) : Record := ⟨level, .program, text⟩

def crashNotices (level : Level) (c : Crash) : List Notice :=
  shown level [note .error "Fatal error during emulation"]
    ++ [.text (c.report ++ "\n"), .text ("Fatal error: " ++ c.message ++ "\n")]

/-- The exit code and the last notices of a session; what the disk reports is no crash. -/
def epilogue (level : Level) : Ending → Nat × List Notice
  | .crashed (.disk e) =>
    (1, if e.failure.reported then [complaint e.message] else crashNotices level (.disk e))
  | .crashed c => (1, crashNotices level c)
  | .closed => (0, shown level [note .info "Exited cleanly"])
  | .interrupted => (0, shown level [note .info "Exited cleanly"])

/-- Sights whose first also has the calls made before it, and the calls after the last. -/
def withEarlierCalls (calls : List MixerCall) (s : Session) : List Sight × List MixerCall :=
  match s.sights with
  | [] => ([], calls ++ s.calls)
  | first :: rest => ({ first with calls := calls ++ first.calls } :: rest, s.calls)

def Settings.soundFile (s : Settings) : Option SoundFile :=
  s.beep.map fun given =>
    match given with
    | .value path => .path path
    | .nothing => .unnamed

def windowSettings (path : Text) (s : Settings) : WindowSettings where
  cartridgePath := path
  scale := s.scale.toValue
  cpuHz := s.cpuHz.toValue
  legacyTiming := s.legacyTiming
  audio := !s.noAudio
  beepFile := s.soundFile

/-- The program ends because the window cannot be opened: what cannot be read is an error, all else
is a crash. -/
def openingFailure (level : Level) (notices : List Notice) : OpeningError → Outcome
  | .operand e => { exit := 1, notices := notices ++ crashNotices level (.operand e) }
  | .cartridge e => failure notices e.message
  | .beeper (.file e) =>
    if e.failure.reported then failure notices e.message
    else { exit := 1, notices := notices ++ crashNotices level (.beeper (.file e)) }
  | .beeper e => { exit := 1, notices := notices ++ crashNotices level (.beeper e) }

def play (world : World) (settings : WindowSettings) (level : Level) (before : List Record) :
    Outcome :=
  let c := Window.create settings world.disk world.mixer (Noise.fresh world.noise) false
  match c.2 with
  | .error e =>
    { openingFailure level (shown level (before ++ c.1.records)) e with calls := c.1.calls }
  | .ok w =>
    let session := Session.run w world.disk (.whole 0) world.beats
    let e := epilogue level session.ending
    let seen := withEarlierCalls c.1.calls session
    { exit := e.1, notices := shown level (before ++ c.1.records ++ session.records) ++ e.2,
      sights := seen.1, calls := seen.2 }

def runWindow (world : World) (path : Text) (s : Settings) (level : Level) : Outcome :=
  play world (windowSettings path s) level [note .info "Starting emulation ..."]

/-- The program with its arguments: what it did, or the crash that nothing caught. -/
def run (world : World) (arguments : List Text) : Except Crash Outcome :=
  match parse arguments with
  | .error .help => .ok { exit := 0, out := help }
  | .error (.wrong e) => .ok { exit := 2, notices := [.text (usageText e)] }
  | .ok (s, rom) =>
    let level := threshold s.verbosity
    match world.homes.expand rom with
    | .error f => .error (.badName ⟨f, rom⟩)
    | .ok path =>
      if world.disk.isFile path then
        if s.info then .ok (runInfo world.disk path level)
        else
          match s.debug with
          | some steps => runDebug world path steps level
          | none => .ok (runWindow world path s level)
      else .ok (failure [] ("ROM file not found: " ++ path))

def paths (homes : Homes) (arguments : List Text) : List Text :=
  match parse arguments with
  | .error _ => []
  | .ok (s, rom) =>
    (homes.expand rom).toOption.toList
      ++ (match s.beep with
        | some (.value path) => [path]
        | _ => [])

def twoDigits (n : Nat) : String := if n < 10 then "0" ++ toString n else toString n

def timeOfDay (seconds : Nat) : String :=
  ":".intercalate [twoDigits (seconds / 3600 % 24), twoDigits (seconds / 60 % 60),
    twoDigits (seconds % 60)]

end Chip8.CommandLine
