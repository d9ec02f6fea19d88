import Chip8.Beeper.SquareWave
import Chip8.Disk
import Chip8.Journal

/-!
# The beeper

A device that plays one short sound through a mixer. It opens the mixer in its own format, builds
its sound from a wave file or, failing that, from a square wave, and plays it from the start at each
request. A device that is disabled, or whose mixer cannot be opened, only counts the requests. What
comes of a wave file is up to the mixer's loader. There is no device at all if that fails, if the
wave file has no name, or if the square wave has no samples. What the mixer is asked to do is
returned as a list of calls.
-/

namespace Chip8

/-- Samples in a second, bits in a sample (negative if signed), and channels. -/
structure MixerFormat where
  frequency : Int
  size : Int
  channels : Int
  deriving DecidableEq, Repr

def MixerFormat.reported (f : MixerFormat) : List Value :=
  [.int f.frequency, .int f.size, .int f.channels]

/-- The file that a sound comes from: one at a path, or one whose name was left out. -/
inductive SoundFile where
  | path (text : Text)
  | unnamed
  deriving DecidableEq, Repr

inductive MixerCall where
  | quit
  | init (format : MixerFormat) (buffer : Nat)
  | sound (file : SoundFile)
  | buffer (samples : List Int)
  | stop
  | play
  deriving DecidableEq, Repr

structure ToneDevice where
  enabled : Bool
  ready : Bool
  mixerOpen : Bool
  beeps : Nat
  deriving DecidableEq, Repr

namespace ToneDevice

def format : MixerFormat := ⟨44100, -16, 1⟩

def bufferSize : Nat := 512

inductive SetupError where
  /-- The wave file cannot be read, for another reason than that it is not there. -/
  | file (e : DiskError)
  | unnamed
  | wave (e : SquareWave.WaveError)
  | format (parts : Nat)
  | operand (e : OperandError)
  | record (e : IntegerError)
  deriving DecidableEq, Repr

def SetupError.message : SetupError → String
  | file e => e.message
  | unnamed => "stat: path should be string, bytes, os.PathLike or integer, not list"
  | wave e => e.message
  | format parts =>
    if parts < 3 then
      "not enough values to unpack (expected 3, got " ++ toString parts ++ ")"
    else "too many values to unpack (expected 3)"
  | operand e => e.message
  | record e => e.message

/-- What comes of a wave file: it is good, it is left aside for a reason, or all fails. -/
inductive Hearing where
  | good
  | unused (reason : Text)
  | failed (e : SetupError)
  deriving DecidableEq, Repr

/-- A loader of wave files that looks at the first four bytes only. -/
def byHeader (disk : Disk) (path : Text) : Hearing :=
  match disk.read path with
  | .ok data =>
    if data.take 4 = [0x52, 0x49, 0x46, 0x46] then .good else .unused "not a wave file"
  | .error e =>
    if e.failure = .isDirectory then .failed (.file e) else .unused ("no file " ++ path)

end ToneDevice

/-- The mixer that a device finds: open or not, what opening it will lead to, and what it makes of
the wave files on a disk. -/
structure Mixer where
  opened : Option MixerFormat := none
  failure : Option Text := none
  /-- The format that it reports when opened, if not the one asked for; it should be three numbers.
  -/
  actual : Option (List Value) := none
  hear : Disk → Text → ToneDevice.Hearing := ToneDevice.byHeader

def Mixer.reported (m : Mixer) : List Value := m.actual.getD ToneDevice.format.reported

namespace ToneDevice

/-- The number of channels as an integer: what is above one loses its fraction, and what is not
counts as one. -/
def channelCount (channels : Value) : Except SquareWave.WaveError Int :=
  match channels.quantity? with
  | none => .error (.arithmetic (.operand (.notComparable ">" channels.kindName "int")))
  | some (.whole n) => .ok (max 1 n)
  | some (.real x) =>
    if 1.0 < x then
      match channels.integer with
      | .ok n => .ok n
      | .error e => .error (.noLength e)
    else .ok 1

def spread (samples : List Int) (channels : Value) : Except SquareWave.WaveError (List Int) :=
  match channelCount channels with
  | .error e => .error e
  | .ok n =>
    if n = 1 then .ok samples
    else if ¬Extent.fits n then .error .tooLarge
    else
      match Extent.problem? [samples.length, n.toNat] .sample with
      | some e => .error (.extent e)
      | none => .ok (samples.flatMap fun s => List.replicate n.toNat s)

def beepSamples (frequency channels : Value) : Except SquareWave.WaveError (List Int) :=
  match SquareWave.samples { sampleRate := frequency } with
  | .ok samples => spread samples channels
  | .error e => .error e

def note (level : Level) (text : Text) : Record := ⟨level, .beeper, "ToneDevice: " ++ text⟩

structure Sound where
  calls : List MixerCall
  records : List Record
  problem : Option SetupError := none

def Sound.after (s : Sound) (call : MixerCall) (record : Record) : Sound :=
  { s with calls := call :: s.calls, records := record :: s.records }

def shownNumber (v : Value) : Int := v.integer.toOption.getD 0

def readyRecord (frequency size channels : Value) : Record :=
  note .info ("mixer ready at " ++ toString (shownNumber frequency) ++ " Hz, "
    ++ toString (shownNumber size).natAbs ++ "-bit, " ++ toString (shownNumber channels)
    ++ " ch (440 Hz beep)")

/-- Why the record of a mixer in use cannot be written: its numbers are shown without fractions. -/
def recordProblem? (frequency size channels : Value) : Option IntegerError :=
  match frequency.integer, size.integer, channels.integer with
  | .error e, _, _ => some e
  | .ok _, .error e, _ => some e
  | .ok _, .ok _, .error e => some e
  | .ok _, .ok _, .ok _ => none

/-- The sound built from samples in an open mixer; the size is looked at last. If the records are
`kept`, one that cannot be written is noticed. -/
def synthesise (mixer : Mixer) (kept : Bool) : Sound :=
  match mixer.reported with
  | [frequency, size, channels] =>
    match beepSamples frequency channels with
    | .error e => { calls := [], records := [], problem := some (.wave e) }
    | .ok samples =>
      if size.quantity?.isNone then
        { calls := [.buffer samples], records := [],
          problem := some (.operand (.unary "abs()" size.kindName)) }
      else
        { calls := [.buffer samples], records := [readyRecord frequency size channels],
          problem := if kept then (recordProblem? frequency size channels).map .record else none }
  | parts => { calls := [], records := [], problem := some (.format parts.length) }

def buildSound (mixer : Mixer) (disk : Disk) (kept : Bool) (wav : Option SoundFile) : Sound :=
  match wav with
  | none => synthesise mixer kept
  | some .unnamed => { calls := [.sound .unnamed], records := [], problem := some .unnamed }
  | some (.path path) =>
    match mixer.hear disk path with
    | .good =>
      { calls := [.sound (.path path)], records := [note .info ("loaded beep from " ++ path)] }
    | .failed e => { calls := [.sound (.path path)], records := [], problem := some e }
    | .unused reason =>
      (synthesise mixer kept).after (.sound (.path path))
        (note .warning ("could not load " ++ path ++ " (" ++ reason ++ "); using synthesised tone"))

structure Setup where
  device : Except SetupError ToneDevice
  calls : List MixerCall
  records : List Record

/-- A new device; `kept` says whether its records are kept. A mixer that reports nothing is not seen
to be open. -/
def start (mixer : Mixer) (disk : Disk) (enabled kept : Bool) (wav : Option SoundFile) : Setup :=
  if enabled then
    let closing : List MixerCall := if mixer.opened.isSome then [.quit] else []
    let opening : List MixerCall := closing ++ [.init format bufferSize]
    match mixer.failure with
    | some text =>
      ⟨.ok ⟨false, false, false, 0⟩, opening, [note .error ("mixer init failed: " ++ text)]⟩
    | none =>
      let s := buildSound mixer disk kept wav
      let device : Except SetupError ToneDevice := match s.problem with
        | some e => .error e
        | none => .ok ⟨true, true, !mixer.reported.isEmpty, 0⟩
      ⟨device, opening ++ s.calls, s.records⟩
  else ⟨.ok ⟨false, false, mixer.opened.isSome, 0⟩, [], [note .info "disabled (silent mode)"]⟩

def play (t : ToneDevice) : ToneDevice × List MixerCall :=
  ({ t with beeps := t.beeps + 1 }, if t.enabled && t.ready then [.stop, .play] else [])

def shutdown (t : ToneDevice) : ToneDevice × List MixerCall :=
  ({ t with ready := false, mixerOpen := false },
   (if t.ready then [.stop] else []) ++ (if t.mixerOpen then [.quit] else []))

end ToneDevice

end Chip8
